import Remap.Mapping.Parser
import Remap.Proofs.Text.Blank
import Remap.Proofs.Text.Search
/-!
# Spaces in replacements

A replacement loses the white space at its ends when it is read, so that a space is written `\s`,
and the text `\s` with one more backslash. `escapeSpaces` writes a replacement in this way. The
space of a backslash with a space behind it is left alone, for `\\s` would be read as `\s`. This is
no loss, as a replacement that was read never ends so.

Main statements: `unescapeSpaces_escapeSpaces`, `isReplacement_unescapeSpaces` and
`IsReplacement.trimmed`.
-/

namespace Remap

/-- How a character of a replacement is written, by whether it stands behind a backslash and by what
stands behind it. -/
def spell (afterBackslash : Bool) (c : Char) (next : Option Char) : List Char :=
  if c = ' ' ∧ afterBackslash = false then ['\\', 's']
  else if c = '\\' ∧ next = some 's' then ['\\', '\\']
  else [c]

/-- A replacement as it is written, whether or not it stands behind a backslash: a run of
backslashes with an `s` behind it gets one more, and a space that is not behind a backslash becomes
`\s`. -/
def escapeSpaces (afterBackslash : Bool) : List Char → List Char
  | [] => []
  | c :: cs => spell afterBackslash c cs.head? ++ escapeSpaces (c == '\\') cs

/-! ## Reading what was written -/

theorem unescapeSpaces_cons {c : Char} {cs : List Char} (h : c = '\\' → cs.head? ≠ some 's')
    (h' : c = '\\' → ∀ r, cs ≠ '\\' :: 's' :: r) :
    unescapeSpaces (c :: cs) = c :: unescapeSpaces cs := by
  rw [unescapeSpaces]
  · rintro cs' rfl rfl
    exact h' rfl cs' rfl
  · rintro cs' rfl rfl
    exact h rfl rfl

/-- A text is read in two parts where the second begins with no character of an escape. -/
theorem unescapeSpaces_append {c : Char} (hc : c ≠ '\\') (hs : c ≠ 's') (cs more : List Char) :
    unescapeSpaces (cs ++ c :: more) = unescapeSpaces cs ++ unescapeSpaces (c :: more) := by
  fun_induction unescapeSpaces cs with
  | case1 cs ih => exact congrArg ('\\' :: 's' :: ·) ih
  | case2 cs ih => exact congrArg (' ' :: ·) ih
  -- `d` begins no mark, and a mark that reaches over its end would contain `c`
  | case3 d cs htwo hone ih =>
    rw [List.cons_append, unescapeSpaces_cons, ih, List.cons_append]
    · rintro rfl
      cases cs with
      | nil => exact fun h => hs (Option.some.inj h)
      | cons e cs => exact fun h => hone cs rfl (by rw [Option.some.inj h])
    · rintro rfl r h
      cases cs with
      | nil => exact hc (List.cons.inj h).1
      | cons e cs =>
        obtain ⟨rfl, hrest⟩ := List.cons.inj h
        cases cs with
        | nil => exact hs (List.cons.inj hrest).1
        | cons f cs => exact htwo cs rfl (by rw [(List.cons.inj hrest).1])
  | case4 => rfl

/-- Behind a backslash every character is written as itself first. -/
theorem head?_escapeSpaces_true (cs : List Char) : (escapeSpaces true cs).head? = cs.head? := by
  cases cs with
  | nil => rfl
  | cons c cs =>
    rw [escapeSpaces, spell, if_neg (by simp)]
    split
    next h => rw [h.1]; rfl
    next => rfl

/-- A backslash with an `s` behind it is not written behind another backslash: it is doubled. -/
theorem escapeSpaces_true_ne (cs r : List Char) : escapeSpaces true cs ≠ '\\' :: 's' :: r := by
  intro h
  have hhead := head?_escapeSpaces_true cs
  rw [h] at hhead
  cases cs with
  | nil => cases hhead
  | cons c cs =>
    have hc : c = '\\' := (Option.some.inj hhead).symm
    subst hc
    rw [escapeSpaces, spell, if_neg (by simp)] at h
    split at h
    next => cases h
    next hs =>
      have htail : escapeSpaces true cs = 's' :: r := (List.cons.inj h).2
      refine hs ⟨rfl, ?_⟩
      rw [← head?_escapeSpaces_true, htail]
      rfl

/-- Reading a replacement that was written gives it back. -/
theorem unescapeSpaces_escapeSpaces (after : Bool) (text : List Char) :
    unescapeSpaces (escapeSpaces after text) = text := by
  induction text generalizing after with
  | nil => rfl
  | cons c cs ih =>
    rw [escapeSpaces]
    by_cases hspace : c = ' ' ∧ after = false
    · obtain ⟨rfl, rfl⟩ := hspace
      show ' ' :: unescapeSpaces (escapeSpaces false cs) = _
      rw [ih]
    -- a backslash before `s` is doubled, or the two would be read as a space
    by_cases hs : c = '\\' ∧ cs.head? = some 's'
    · obtain ⟨rfl, hs⟩ := hs
      obtain ⟨cs', rfl⟩ : ∃ cs', cs = 's' :: cs' := List.head?_eq_some_iff.mp hs
      have hcs : 's' :: unescapeSpaces (escapeSpaces false cs') = 's' :: cs' := ih true
      show '\\' :: 's' :: unescapeSpaces (escapeSpaces false cs') = _
      rw [hcs]
    · rw [spell, if_neg hspace, if_neg hs, List.singleton_append, unescapeSpaces_cons, ih]
      · rintro rfl
        rw [show ('\\' == '\\') = true from rfl, head?_escapeSpaces_true]
        exact fun h => hs ⟨rfl, h⟩
      · rintro rfl r
        exact escapeSpaces_true_ne cs r

/-! ## What was read -/

/-- What the replacements have in common that are read from a line: a space may stand at an end,
since `\s` was written for it, but other white space may not, and no backslash with a space behind
it stands at the end. -/
structure IsReplacement (text : List Char) : Prop where
  no_newline : '\n' ∉ text
  first : ∀ c, text.head? = some c → c = ' ' ∨ Text.isBlank c = false
  last : ∀ c, text.getLast? = some c → c = ' ' ∨ Text.isBlank c = false
  no_backslash_space : ¬ ['\\', ' '] <:+ text

theorem mem_unescapeSpaces {c : Char} {cs : List Char} (h : c ∈ unescapeSpaces cs) :
    c ∈ cs ∨ c = ' ' := by
  fun_induction unescapeSpaces cs with
  | case1 cs ih =>
    simp only [List.mem_cons] at h ⊢
    grind
  | case2 cs ih =>
    simp only [List.mem_cons] at h ⊢
    grind
  | case3 d cs _ _ ih =>
    simp only [List.mem_cons] at h ⊢
    grind
  | case4 => cases h

theorem eq_nil_of_unescapeSpaces_eq_nil {cs : List Char} (h : unescapeSpaces cs = []) :
    cs = [] := by
  unfold unescapeSpaces at h
  split at h
  next => cases h
  next => cases h
  next => cases h
  next => rfl

/-- A space is all that was read only if it was written so, or as `\s`. -/
theorem eq_of_unescapeSpaces_eq_space {cs : List Char} (h : unescapeSpaces cs = [' ']) :
    cs = [' '] ∨ cs = ['\\', 's'] := by
  unfold unescapeSpaces at h
  split at h
  next => cases h
  next cs =>
    rw [eq_nil_of_unescapeSpaces_eq_nil (List.cons.inj h).2]
    exact .inr rfl
  next c cs _ _ =>
    rw [(List.cons.inj h).1, eq_nil_of_unescapeSpaces_eq_nil (List.cons.inj h).2]
    exact .inl rfl
  next => cases h

theorem first_unescapeSpaces {cs : List Char}
    (h : ∀ c, cs.head? = some c → Text.isBlank c = false) (c : Char)
    (hc : (unescapeSpaces cs).head? = some c) : c = ' ' ∨ Text.isBlank c = false := by
  unfold unescapeSpaces at hc
  split at hc
  next => exact .inr (h c hc)
  next => exact .inl (Option.some.inj hc).symm
  next => exact .inr (h c hc)
  next => cases hc

theorem forall_last_cons_iff {P : Char → Prop} {c : Char} {cs : List Char} :
    (∀ d, (c :: cs).getLast? = some d → P d) ↔
      (cs = [] → P c) ∧ ∀ d, cs.getLast? = some d → P d := by
  cases cs with
  | nil => simp
  | cons d cs => simp [List.getLast?_cons_cons]

theorem last_unescapeSpaces {cs : List Char}
    (h : ∀ c, cs.getLast? = some c → Text.isBlank c = false) :
    ∀ c, (unescapeSpaces cs).getLast? = some c → c = ' ' ∨ Text.isBlank c = false := by
  fun_induction unescapeSpaces cs with
  | case1 cs ih =>
    rw [forall_last_cons_iff, forall_last_cons_iff, forall_last_cons_iff] at h
    rw [forall_last_cons_iff, forall_last_cons_iff]
    exact ⟨nofun, fun _ => .inr (by decide), ih h.2.2.2⟩
  | case2 cs ih =>
    rw [forall_last_cons_iff, forall_last_cons_iff] at h
    rw [forall_last_cons_iff]
    exact ⟨fun _ => .inl rfl, ih h.2.2⟩
  | case3 c cs _ _ ih =>
    rw [forall_last_cons_iff] at h ⊢
    exact ⟨fun hnil => .inr (h.1 (eq_nil_of_unescapeSpaces_eq_nil hnil)), ih h.2⟩
  | case4 => nofun

/-- A space that `\s` was written for has no backslash before it, and any other is not the last. -/
theorem not_suffix_unescapeSpaces {cs : List Char}
    (h : ∀ c, cs.getLast? = some c → Text.isBlank c = false) :
    ¬ ['\\', ' '] <:+ unescapeSpaces cs := by
  fun_induction unescapeSpaces cs with
  | case1 cs ih =>
    rw [forall_last_cons_iff, forall_last_cons_iff, forall_last_cons_iff] at h
    rw [List.suffix_cons_iff, List.suffix_cons_iff]
    rintro (he | he | he)
    · cases he
    · cases he
    · exact ih h.2.2.2 he
  | case2 cs ih =>
    rw [forall_last_cons_iff, forall_last_cons_iff] at h
    rw [List.suffix_cons_iff]
    rintro (he | he)
    · cases he
    · exact ih h.2.2 he
  | case3 c cs hs _ ih =>
    rw [forall_last_cons_iff] at h
    rw [List.suffix_cons_iff]
    rintro (he | he)
    -- the space was written as it is, which is a blank, or as `\s`, and then the backslash
    -- before it would have been read with it
    · rcases eq_of_unescapeSpaces_eq_space (List.cons.inj he).2.symm with rfl | rfl
      · have hblank := h.2 ' ' rfl
        rw [Text.isBlank_space] at hblank
        cases hblank
      · exact hs [] (List.cons.inj he).1.symm rfl
    · exact ih h.2 he
  | case4 => simp

/-- A trimmed text in one line is read as a replacement. -/
theorem isReplacement_unescapeSpaces {raw : List Char} (h : Text.Trimmed raw) (hn : '\n' ∉ raw) :
    IsReplacement (unescapeSpaces raw) where
  no_newline := by
    intro hm
    rcases mem_unescapeSpaces hm with hm | hm
    · exact hn hm
    · cases hm
  first := first_unescapeSpaces h.first
  last := last_unescapeSpaces h.last
  no_backslash_space := not_suffix_unescapeSpaces h.last

/-! ## What is written -/

theorem mem_spell {after : Bool} {c d : Char} {next : Option Char} (h : d ∈ spell after c next) :
    d = c ∨ d = '\\' ∨ d = 's' := by
  unfold spell at h
  split at h
  · simp only [List.mem_cons, List.not_mem_nil, or_false] at h
    exact .inr h
  · split at h
    · simp only [List.mem_cons, List.not_mem_nil, or_false, or_self] at h
      exact .inr (.inl h)
    · exact .inl (List.mem_singleton.mp h)

/-- Only backslashes and the letter `s` are written that were not there. -/
theorem mem_escapeSpaces {after : Bool} {c : Char} {text : List Char}
    (h : c ∈ escapeSpaces after text) : c ∈ text ∨ c = '\\' ∨ c = 's' := by
  induction text generalizing after with
  | nil => cases h
  | cons d cs ih =>
    rw [escapeSpaces] at h
    rcases List.mem_append.mp h with h | h
    · rcases mem_spell h with rfl | h
      · exact .inl List.mem_cons_self
      · exact .inr h
    · rcases ih h with h | h
      · exact .inl (List.mem_cons_of_mem d h)
      · exact .inr h

theorem spell_ne_nil (after : Bool) (c : Char) (next : Option Char) : spell after c next ≠ [] := by
  unfold spell
  split
  · exact List.cons_ne_nil _ _
  · split <;> exact List.cons_ne_nil _ _

/-- What is written begins with no white space. -/
theorem first_escapeSpaces {text : List Char}
    (h : ∀ c, text.head? = some c → c = ' ' ∨ Text.isBlank c = false) (c : Char)
    (hc : (escapeSpaces false text).head? = some c) : Text.isBlank c = false := by
  cases text with
  | nil => cases hc
  | cons d cs =>
    rw [escapeSpaces, List.head?_append_of_ne_nil _ (spell_ne_nil _ _ _)] at hc
    unfold spell at hc
    split at hc
    next =>
      cases hc
      decide
    next hspace =>
      split at hc
      next =>
        cases hc
        decide
      next =>
        rw [← Option.some.inj hc]
        rcases h d rfl with hd | hd
        · exact absurd ⟨hd, rfl⟩ hspace
        · exact hd

theorem last_spell {after : Bool} {c : Char} {next : Option Char}
    (hc : c = ' ' ∧ after = false ∨ Text.isBlank c = false) (d : Char)
    (hd : (spell after c next).getLast? = some d) : Text.isBlank d = false := by
  unfold spell at hd
  split at hd
  next =>
    cases hd
    decide
  next hspace =>
    split at hd
    next =>
      cases hd
      decide
    next =>
      cases hd
      exact hc.resolve_left hspace

/-- What is written ends with no white space. -/
theorem last_escapeSpaces {after : Bool} {text : List Char}
    (h : ∀ c, text.getLast? = some c → c = ' ' ∨ Text.isBlank c = false)
    (hs : ¬ ['\\', ' '] <:+ text) (ha : after = true → text ≠ [' ']) (c : Char)
    (hc : (escapeSpaces after text).getLast? = some c) : Text.isBlank c = false := by
  induction text generalizing after with
  | nil => cases hc
  | cons d cs ih =>
    rw [forall_last_cons_iff] at h
    rw [List.suffix_cons_iff, not_or] at hs
    rw [escapeSpaces] at hc
    -- only the last character matters, and a backslash before it decides how a space is spelt
    cases cs with
    | nil =>
      rw [escapeSpaces, List.append_nil] at hc
      refine last_spell ?_ c hc
      rcases h.1 rfl with rfl | hd
      · cases after with
        | false => exact .inl ⟨rfl, rfl⟩
        | true => exact absurd rfl (ha rfl)
      · exact .inr hd
    | cons e cs =>
      have hne : escapeSpaces (d == '\\') (e :: cs) ≠ [] := by
        rw [escapeSpaces]
        exact List.append_ne_nil_of_left_ne_nil (spell_ne_nil _ _ _) _
      rw [List.getLast?_append_of_ne_nil _ hne] at hc
      refine ih h.2 hs.2 ?_ hc
      intro hd hcs
      rw [beq_iff_eq.mp hd, hcs] at hs
      exact hs.1 rfl

/-- A replacement is written without white space at its ends. -/
theorem IsReplacement.trimmed {text : List Char} (h : IsReplacement text) :
    Text.Trimmed (escapeSpaces false text) where
  first := first_escapeSpaces h.first
  last := last_escapeSpaces h.last h.no_backslash_space nofun

theorem IsReplacement.no_newline_escapeSpaces {text : List Char} (h : IsReplacement text) :
    '\n' ∉ escapeSpaces false text := by
  intro hm
  rcases mem_escapeSpaces hm with hm | hm | hm
  · exact h.no_newline hm
  · cases hm
  · cases hm

theorem head?_escapeSpaces_false_ne (cs : List Char) :
    (escapeSpaces false cs).head? ≠ some ' ' := by
  cases cs with
  | nil => nofun
  | cons c cs =>
    rw [escapeSpaces, List.head?_append_of_ne_nil _ (spell_ne_nil _ _ _)]
    unfold spell
    split
    next => decide
    next hspace =>
      split
      next => decide
      next =>
        intro h
        exact hspace ⟨Option.some.inj h, rfl⟩

theorem head?_of_singleton_isPrefix {c : Char} {cs : List Char} (h : [c] <+: cs) :
    cs.head? = some c := by
  obtain ⟨rest, rfl⟩ := h
  rfl

/-- A space that is written as itself stands behind a backslash, so not behind a `#`. -/
theorem not_hash_space_isPrefix (after : Bool) (cs : List Char) :
    ¬ ['#', ' '] <+: escapeSpaces after cs := by
  cases cs with
  | nil => simp [escapeSpaces]
  | cons c cs =>
    rw [escapeSpaces]
    unfold spell
    split
    next => simp
    next =>
      split
      next => simp
      next =>
        rw [List.singleton_append, List.cons_prefix_cons]
        rintro ⟨rfl, h⟩
        exact head?_escapeSpaces_false_ne cs (head?_of_singleton_isPrefix h)

/-- What is written holds no comment sign. -/
theorem not_comment_isInfix (after : Bool) (text : List Char) :
    ¬ [' ', '#', ' '] <:+: escapeSpaces after text := by
  induction text generalizing after with
  | nil => simp [escapeSpaces]
  | cons c cs ih =>
    rw [escapeSpaces]
    unfold spell
    split
    -- a space that is marked begins no sign, and neither does a backslash that is doubled
    next =>
      show ¬ _ <:+: '\\' :: 's' :: escapeSpaces (c == '\\') cs
      simp [List.infix_cons_iff, List.cons_prefix_cons, ih]
    next =>
      split
      next =>
        show ¬ _ <:+: '\\' :: '\\' :: escapeSpaces (c == '\\') cs
        simp [List.infix_cons_iff, List.cons_prefix_cons, ih]
      next =>
        rw [List.singleton_append, List.infix_cons_iff, List.cons_prefix_cons]
        rintro (⟨-, h⟩ | h)
        · exact not_hash_space_isPrefix _ _ h
        · exact ih _ h

end Remap
