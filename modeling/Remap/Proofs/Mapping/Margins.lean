import Remap.Proofs.Mapping.Layout
import Remap.Proofs.Mapping.Spaces
/-!
# Blanks around lines

Spaces and tabs at the ends of a line do not matter as long as they complete no sign. The arrow and
the sign of a comment begin with a space, and the latter ends with one, so that there are two ways
to complete a sign: a space in front of a line that begins with the rest of an arrow, and a space
behind a rule that ends with the beginning of a comment.

Main statements: `ofText_cons`, `ofText_concat` and `parse_margins`.
-/

namespace Remap.Mapping

open Text (LineAt)

variable {c : Char} {line w : List Char}

/-! ## One blank -/

/-- A blank in front of a line does not matter, unless it completes an arrow. -/
theorem ofText_cons (hc : c = ' ' ∨ c = '\t') (h : c = ' ' → ¬ ['=', '>'] <+: line) :
    Line.ofText {} (c :: line) = Line.ofText {} line := by
  have hblank : Text.isBlank c = true := by rcases hc with rfl | rfl <;> rfl
  have hiff : IsRuleLine {} (c :: line) ↔ IsRuleLine {} line :=
    isRuleLine_iff_of_trim_eq (Text.trim_cons_of_blank hblank line)
  by_cases hrule : IsRuleLine {} line
  · -- a line that begins with `#` is a comment, so that no sign of one begins at the blank
    have hsign : ¬ [' ', '#', ' '] <+: c :: line := by
      rw [List.cons_prefix_cons]
      rintro ⟨-, rest, rfl⟩
      exact hrule.not_comment (Text.head?_trim_cons (by decide) _)
    have harrow : ¬ [' ', '=', '>'] <+: c :: Text.before [' ', '#', ' '] line := by
      rw [List.cons_prefix_cons]
      rintro ⟨rfl, hp⟩
      exact h rfl (hp.trans (Text.before_isPrefix _ _))
    rw [ofText_of_isRuleLine hrule, ofText_of_isRuleLine (hiff.mpr hrule)]
    dsimp only
    rw [Text.before_cons_of_not_isPrefix hsign, Text.cutFirst_cons_of_not_isPrefix harrow]
    cases Text.cutFirst [' ', '=', '>'] (Text.before [' ', '#', ' '] line) with
    | none => rfl
    | some parts =>
      dsimp only [Option.map_some]
      rw [Text.trim_cons_of_blank hblank]
  · rw [ofText_of_not_isRuleLine hrule, ofText_of_not_isRuleLine (mt hiff.mp hrule)]

/-- A blank behind a line does not matter, unless it completes the sign of a comment. -/
theorem ofText_concat (hc : c = ' ' ∨ c = '\t')
    (h : c = ' ' → [' ', '#'] <:+ line → IsRuleLine {} line → [' ', '#', ' '] <:+: line) :
    Line.ofText {} (line ++ [c]) = Line.ofText {} line := by
  have hblank : Text.isBlank c = true := by rcases hc with rfl | rfl <;> rfl
  have hiff : IsRuleLine {} (line ++ [c]) ↔ IsRuleLine {} line :=
    isRuleLine_iff_of_trim_eq (Text.trim_concat_of_blank hblank line)
  by_cases hrule : IsRuleLine {} line
  · rw [ofText_of_isRuleLine hrule, ofText_of_isRuleLine (hiff.mpr hrule)]
    dsimp only
    -- only a blank that completes a sign would make a difference, for a comment or for an arrow
    by_cases hsign : [' ', '#', ' '] <:+: line
    · rw [Text.before_append (by decide) hsign]
    · have hsign' : ¬ [' ', '#', ' '] <:+: line ++ [c] := by
        rw [show [' ', '#', ' '] = [' ', '#'] ++ [' '] from rfl, Text.concat_infix_concat_iff]
        rintro (⟨hs, hspace⟩ | hin)
        · exact hsign (h hspace.symm hs hrule)
        · exact hsign hin
      rw [Text.before_of_not_infix (by decide) hsign', Text.before_of_not_infix (by decide) hsign]
      cases hcut : Text.cutFirst [' ', '=', '>'] line with
      | some parts =>
        rw [Text.cutFirst_append (by decide) hcut]
        dsimp only
        rw [Text.trim_concat_of_blank hblank]
      | none =>
        have harrow : ¬ [' ', '=', '>'] <:+: line ++ [c] := by
          rw [show [' ', '=', '>'] = [' ', '='] ++ ['>'] from rfl, Text.concat_infix_concat_iff]
          rintro (⟨-, rfl⟩ | hin)
          · rcases hc with hc | hc <;> cases hc
          · exact (Text.cutFirst_eq_none_iff (by decide)).mp hcut hin
        rw [(Text.cutFirst_eq_none_iff (by decide)).mpr harrow]
  · rw [ofText_of_not_isRuleLine hrule, ofText_of_not_isRuleLine (mt hiff.mp hrule)]

/-! ## Any number of blanks -/

/-- Blanks in front of a line complete an arrow with its beginning. -/
def CompletesArrow (w line : List Char) : Prop := w.getLast? = some ' ' ∧ ['=', '>'] <+: line

/-- Blanks behind a rule complete the sign of a comment with its end, where there is no comment
yet. -/
def CompletesComment (w line : List Char) : Prop :=
  w.head? = some ' ' ∧ [' ', '#'] <:+ line ∧ IsRuleLine {} line ∧ ¬ [' ', '#', ' '] <:+: line

theorem ofText_append_of_not_completes (hw : ∀ c ∈ w, c = ' ' ∨ c = '\t')
    (h : ¬ CompletesArrow w line) : Line.ofText {} (w ++ line) = Line.ofText {} line := by
  induction w with
  | nil => rfl
  | cons c w ih =>
    have hrest : ∀ d ∈ w, d = ' ' ∨ d = '\t' := fun d hd => hw d (List.mem_cons_of_mem c hd)
    rw [List.cons_append, ofText_cons (hw c List.mem_cons_self)]
    · refine ih hrest ?_
      rintro ⟨hlast, hp⟩
      refine h ⟨?_, hp⟩
      rw [List.getLast?_cons, hlast]
      rfl
    · rintro rfl hp
      cases w with
      | nil => exact h ⟨rfl, hp⟩
      | cons d w =>
        -- the blank that is next in line is not the rest of an arrow
        obtain rfl : '=' = d := (List.cons_prefix_cons.mp hp).1
        rcases hrest '=' List.mem_cons_self with hd | hd <;> cases hd

theorem ofText_append_blanks (hw : ∀ c ∈ w, c = ' ' ∨ c = '\t')
    (h : ¬ CompletesComment w line) : Line.ofText {} (line ++ w) = Line.ofText {} line := by
  induction w generalizing line with
  | nil => rw [List.append_nil]
  | cons c w ih =>
    have hrest : ∀ d ∈ w, d = ' ' ∨ d = '\t' := fun d hd => hw d (List.mem_cons_of_mem c hd)
    have hblank : ¬ '#' = c := by
      rintro rfl
      rcases hw '#' List.mem_cons_self with hc | hc <;> cases hc
    rw [List.append_cons, ih hrest, ofText_concat (hw c List.mem_cons_self)]
    · rintro rfl hs hrule
      exact Classical.byContradiction fun hno => h ⟨rfl, hs, hrule, hno⟩
    · rintro ⟨-, ⟨front, hs⟩, -⟩
      have hlast := congrArg List.getLast? hs
      simp only [List.getLast?_append, List.getLast?_cons_cons, List.getLast?_singleton] at hlast
      exact hblank (Option.some.inj hlast)

/-! ## Signs that are completed -/

/-- With an arrow at its front, a line has no token. -/
theorem ofText_arrow (rest : List Char) :
    Line.ofText {} (' ' :: '=' :: '>' :: rest) = .invalid := by
  have hhead : (Text.trim (' ' :: '=' :: '>' :: rest)).head? = some '=' := by
    rw [Text.trim_cons_of_blank (by decide)]
    exact Text.head?_trim_cons (by decide) _
  have hspace : ¬ [' ', '#', ' '] <+: ' ' :: '=' :: '>' :: rest := by
    rw [List.cons_prefix_cons, List.cons_prefix_cons]
    rintro ⟨-, hc, -⟩
    cases hc
  have hother : ∀ {c cs}, c ≠ ' ' → ¬ [' ', '#', ' '] <+: c :: cs := fun hc hp =>
    hc (List.cons_prefix_cons.mp hp).1.symm
  have harrow : [' ', '=', '>'] <+: ' ' :: '=' :: '>' :: Text.before [' ', '#', ' '] rest :=
    ⟨_, rfl⟩
  rw [ofText_of_isRuleLine (isRuleLine_of_head? hhead (by decide))]
  -- the arrow is found at the very start, and leaves no token before it
  dsimp only
  rw [Text.before_cons_of_not_isPrefix hspace,
    Text.before_cons_of_not_isPrefix (hother (by decide)),
    Text.before_cons_of_not_isPrefix (hother (by decide)), Text.cutFirst_of_isPrefix harrow]
  rfl

theorem ofText_append_of_completes (hw : ∀ c ∈ w, c = ' ' ∨ c = '\t')
    (h : CompletesArrow w line) : Line.ofText {} (w ++ line) = .invalid := by
  obtain ⟨hlast, rest, rfl⟩ := h
  obtain ⟨front, rfl⟩ := List.getLast?_eq_some_iff.mp hlast
  have hfront : ∀ c ∈ front, c = ' ' ∨ c = '\t' := fun c hc => hw c (List.mem_append_left _ hc)
  have hnot : ¬ CompletesArrow front (' ' :: '=' :: '>' :: rest) := by
    rintro ⟨-, hp⟩
    cases (List.cons_prefix_cons.mp hp).1
  rw [List.append_assoc]
  show Line.ofText {} (front ++ ' ' :: '=' :: '>' :: rest) = .invalid
  rw [ofText_append_of_not_completes hfront hnot, ofText_arrow]

/-- The replacement of a rule goes on with the beginning of a comment that stands behind it. -/
theorem ofText_append_hash {token raw : List Char} (hrule : IsRuleLine {} (line ++ [' ', '#']))
    (hno : ¬ [' ', '#', ' '] <:+: line ++ [' ', '#'])
    (h : Line.ofText {} (line ++ [' ', '#']) = .rule token raw) :
    ∃ right, Line.ofText {} line = .rule token (Text.trim right) ∧
      raw = Text.trim (right ++ [' ', '#']) := by
  have hno' : ¬ [' ', '#', ' '] <:+: line := fun hin =>
    hno (hin.trans (List.prefix_append _ _).isInfix)
  rw [ofText_of_isRuleLine hrule] at h
  dsimp only at h
  rw [Text.before_of_not_infix (by decide) hno] at h
  cases hcut : Text.cutFirst [' ', '=', '>'] line with
  | none =>
    have harrow : ¬ [' ', '=', '>'] <:+: line ++ [' ', '#'] := by
      rw [show [' ', '=', '>'] = [' ', '='] ++ ['>'] from rfl, Text.concat_infix_append_pair_iff]
      rintro (⟨-, hc⟩ | ⟨-, hc⟩ | hin)
      · cases hc
      · cases hc
      · exact (Text.cutFirst_eq_none_iff (by decide)).mp hcut hin
    rw [(Text.cutFirst_eq_none_iff (by decide)).mpr harrow] at h
    cases h
  | some parts =>
    obtain ⟨left, right⟩ := parts
    rw [Text.cutFirst_append (by decide) hcut] at h
    dsimp only at h
    split at h
    next => cases h
    next hleft =>
      cases h
      -- the line without `#` has the arrow in it, and so is not blank
      have hblank : Text.trim line ≠ [] := by
        rw [Ne, Text.trim_eq_nil_iff]
        intro hall
        have heq : '=' ∈ line := by simp [Text.eq_of_cutFirst hcut]
        exact absurd (hall '=' heq) (by decide)
      refine ⟨right, ?_, rfl⟩
      rw [ofText_of_isRuleLine ((isRuleLine_append_iff hblank _).mp hrule)]
      dsimp only
      rw [Text.before_of_not_infix (by decide) hno', hcut]
      exact if_neg hleft

/-- With a comment where its replacement ended, a rule has another replacement. -/
theorem ofText_append_blanks_of_completes (h : CompletesComment w line) {token raw : List Char}
    (hline : Line.ofText {} line = .rule token raw) :
    ∃ raw', Line.ofText {} (line ++ w) = .rule token raw' ∧
      unescapeSpaces raw' ≠ unescapeSpaces raw := by
  obtain ⟨hhead, ⟨front, rfl⟩, hrule, hno⟩ := h
  obtain ⟨rest, rfl⟩ := List.head?_eq_some_iff.mp hhead
  have hsign : ¬ [' ', '#'] <:+ front := by
    rintro ⟨more, rfl⟩
    exact hno ⟨more, ['#'], by simp⟩
  obtain ⟨right, hfront, rfl⟩ := ofText_append_hash hrule hno hline
  refine ⟨Text.trim right, ?_, ?_⟩
  · rw [← hfront, ← ofText_append_comment hsign rest]
    simp
  -- `#` was part of the replacement and belongs to a comment now, so the replacement is shorter
  · obtain ⟨d, more, htrim, hd⟩ :=
      Text.exists_trim_append (b := ' ') (c := '#') (by decide) (by decide) right
    have hescape : d ≠ '\\' ∧ d ≠ 's' := by
      constructor <;> rintro rfl <;> rcases hd with hd | hd <;> cases hd
    rw [htrim, unescapeSpaces_append hescape.1 hescape.2]
    intro heq
    cases eq_nil_of_unescapeSpaces_eq_nil (List.self_eq_append_right.mp heq)

/-! ## Texts -/

/-- Other blanks around a line leave the lines of a text. -/
theorem exists_lines_margins {a b : List Char} (hplace : LineAt a line b)
    (hw : ∀ c ∈ w, c = ' ' ∨ c = '\t') :
    ∃ rest, Text.lines (a ++ line ++ b) = Text.lines a ++ line :: rest ∧
      Text.lines (a ++ (w ++ line) ++ b) = Text.lines a ++ (w ++ line) :: rest ∧
      Text.lines (a ++ (line ++ w) ++ b) = Text.lines a ++ (line ++ w) :: rest := by
  obtain ⟨rest, hlines, hother⟩ := hplace.lines_eq
  have hn : '\n' ∉ w := by
    intro hm
    rcases hw '\n' hm with h | h <;> cases h
  have hr : w.getLast? ≠ some '\r' := by
    intro hlast
    rcases hw '\r' (List.mem_of_getLast? hlast) with h | h <;> cases h
  have hline := hplace.no_newline
  -- blanks put no carriage return at the end of a line
  have hkeep : ∀ other, '\n' ∉ other → other ≠ [] →
      (other.getLast? = some '\r' → line.getLast? = some '\r') →
      Text.lines (a ++ other ++ b) = Text.lines a ++ other :: rest := by
    intro other hn' hne hlast
    obtain ⟨l, rfl | ⟨rfl, hno⟩, hl⟩ := hother other hn' hne
    · exact hl
    · exact absurd (hlast (List.getLast?_concat)) hno
  refine ⟨rest, hlines, ?_, ?_⟩
  · by_cases hnil : w ++ line = []
    · rw [hnil, ← (List.append_eq_nil_iff.mp hnil).2, hlines]
    · refine hkeep _ (by simp [hn, hline]) hnil ?_
      rw [List.getLast?_append]
      cases line.getLast? with
      | none => exact fun h => absurd h hr
      | some c => exact id
  · by_cases hnil : line ++ w = []
    · rw [hnil, ← (List.append_eq_nil_iff.mp hnil).1, hlines]
    · refine hkeep _ (by simp [hn, hline]) hnil ?_
      rw [List.getLast?_append]
      cases hlast : w.getLast? with
      | none => exact id
      | some c =>
        rintro hc
        exact absurd (hlast.trans hc) hr

/-- What is read stays the same if a line is read as before. -/
theorem rules_of_ofText_eq {n : Nat} {front back : List (List Char)} {line' : List Char}
    {rules : RuleSet} (h : (readLines {} n (front ++ line :: back)).rules = .ok rules)
    (heq : Line.ofText {} line' = Line.ofText {} line) :
    (readLines {} n (front ++ line' :: back)).rules = .ok rules := by
  obtain ⟨first, others, rfl, hline, hother⟩ := exists_rules_append {} h
  have hline' : (readLines {} (n + front.length) (line' :: back)).rules = .ok others := by
    rw [readLines] at hline ⊢
    rw [heq]
    cases hl : Line.ofText {} line with
    | passed => rwa [hl] at hline
    | rule token raw => rwa [hl] at hline
    | invalid =>
      rw [hl] at hline
      cases hline
  rw [hother, hline']
  rfl

/-- Behind lines that are rules or passed over, an invalid one is reported. -/
theorem rules_of_invalid {n : Nat} {front back : List (List Char)} {line' : List Char}
    {rules : RuleSet} (h : (readLines {} n (front ++ line :: back)).rules = .ok rules)
    (hline' : Line.ofText {} line' = .invalid) :
    (readLines {} n (front ++ line' :: back)).rules = .error ⟨n + front.length, line'⟩ := by
  obtain ⟨first, others, -, -, hother⟩ := exists_rules_append {} h
  rw [hother, readLines, hline']
  rfl

/-- Rule sets that differ in one replacement are not written alike. -/
theorem same_of_replacement_ne (first rest : RuleSet) (matcher : Matcher) {t t' : List Char}
    (h : t ≠ t') :
    RuleSet.same (first ++ ⟨matcher, t⟩ :: rest) (first ++ ⟨matcher, t'⟩ :: rest) = false := by
  induction first with
  | nil => simp [RuleSet.same, Rule.same, h]
  | cons r first ih =>
    rw [List.cons_append, List.cons_append, RuleSet.same, ih, Bool.and_false]

/-- A rule that is given another replacement makes another rule set. -/
theorem exists_rules_of_replacement_ne {n : Nat} {front back : List (List Char)}
    {line' token raw raw' : List Char} {rules : RuleSet}
    (h : (readLines {} n (front ++ line :: back)).rules = .ok rules)
    (hline : Line.ofText {} line = .rule token raw)
    (hline' : Line.ofText {} line' = .rule token raw')
    (hne : unescapeSpaces raw ≠ unescapeSpaces raw') :
    ∃ rules', (readLines {} n (front ++ line' :: back)).rules = .ok rules' ∧
      rules.same rules' = false := by
  -- all rules but the one of the line are the same
  obtain ⟨first, others, rfl, hothers, hother⟩ := exists_rules_append {} h
  rw [readLines, hline] at hothers
  dsimp only at hothers
  rw [Outcome.rules_cons] at hothers
  cases hrest : (readLines {} (n + front.length + 1) back).rules with
  | error e =>
    rw [hrest] at hothers
    cases hothers
  | ok rest =>
    rw [hrest] at hothers
    obtain rfl := Except.ok.inj hothers
    refine ⟨_, ?_, same_of_replacement_ne first rest (Matcher.ofToken token).1 hne⟩
    rw [hother, readLines, hline']
    dsimp only
    rw [Outcome.rules_cons, hrest]
    rfl

/-- A line of a text that is accepted is a rule if it has to be one. -/
theorem exists_rule_of_accepted {n : Nat} {front back : List (List Char)} {rules : RuleSet}
    (h : (readLines {} n (front ++ line :: back)).rules = .ok rules) (hrule : IsRuleLine {} line) :
    ∃ token raw, Line.ofText {} line = .rule token raw := by
  by_cases hwell : WellFormed {} line
  · obtain ⟨left, right, -, htext⟩ := ofText_of_wellFormed hrule hwell
    exact ⟨_, _, htext⟩
  · rw [rules_of_invalid h (ofText_of_not_wellFormed hrule hwell)] at h
    cases h

/-- Blanks around a line of a text that is accepted leave the rules as they are, if they complete no
sign. With an arrow in front, the line is invalid; with a comment behind it, its rule has another
replacement. -/
theorem parse_margins {a b : List Char} {rules : RuleSet} (hplace : LineAt a line b)
    (hw : ∀ c ∈ w, c = ' ' ∨ c = '\t') (h : parse (a ++ line ++ b) = .ok rules) :
    (¬ CompletesArrow w line → parse (a ++ (w ++ line) ++ b) = .ok rules) ∧
    (CompletesArrow w line →
      parse (a ++ (w ++ line) ++ b) = .error ⟨a.count '\n' + 1, w ++ line⟩) ∧
    (¬ CompletesComment w line → parse (a ++ (line ++ w) ++ b) = .ok rules) ∧
    (CompletesComment w line →
      ∃ rules', parse (a ++ (line ++ w) ++ b) = .ok rules' ∧ rules.same rules' = false) := by
  obtain ⟨rest, hlines, hfront, hbehind⟩ := exists_lines_margins hplace hw
  unfold parse read at h ⊢
  rw [hlines] at h
  rw [hfront, hbehind]
  refine ⟨?_, ?_, ?_, ?_⟩
  · intro hnot
    exact rules_of_ofText_eq h (ofText_append_of_not_completes hw hnot)
  · intro hcompletes
    rw [rules_of_invalid h (ofText_append_of_completes hw hcompletes),
      Text.length_lines_of_ends hplace.ends, Nat.add_comm]
  · intro hnot
    exact rules_of_ofText_eq h (ofText_append_blanks hw hnot)
  · intro hcompletes
    obtain ⟨token, raw, hline⟩ := exists_rule_of_accepted h hcompletes.2.2.1
    obtain ⟨raw', hline', hne⟩ := ofText_append_blanks_of_completes hcompletes hline
    exact exists_rules_of_replacement_ne h hline hline' hne.symm

/-- A space and a tab complete nothing in front of the rest of an arrow, but the sign of a comment
behind its beginning. -/
theorem parse_margins_space_tab :
    ∃ rules, LineAt "# c\n".toList "=> x => y #".toList "\r\nz =>".toList ∧
      parse "# c\n=> x => y #\r\nz =>".toList = .ok rules ∧
      parse "# c\n \t=> x => y #\r\nz =>".toList = .ok rules ∧
      ∃ rules', parse "# c\n=> x => y # \t\r\nz =>".toList = .ok rules' ∧
        rules.same rules' = false := by
  have hplace : LineAt "# c\n".toList "=> x => y #".toList "\r\nz =>".toList := ⟨.inr rfl, rfl⟩
  obtain ⟨rules, h⟩ : ∃ rules, parse "# c\n=> x => y #\r\nz =>".toList = .ok rules := ⟨_, rfl⟩
  have hw : ∀ c ∈ [' ', '\t'], c = ' ' ∨ c = '\t' := by simp
  obtain ⟨hfront, -, -, hbehind⟩ := parse_margins hplace hw h
  refine ⟨rules, hplace, h, hfront ?_, hbehind ⟨rfl, by decide, by decide, by decide +kernel⟩⟩
  rintro ⟨hlast, -⟩
  cases hlast

/-- A space in front of a line can make a text invalid, and one behind a line can change a rule. -/
theorem parse_space_completing :
    (∃ rules, parse "=> x => y".toList = .ok rules) ∧
      parse " => x => y".toList = .error ⟨1, " => x => y".toList⟩ ∧
      ∃ rules rules', parse "a => b #".toList = .ok rules ∧
        parse "a => b # ".toList = .ok rules' ∧ rules.same rules' = false := by
  refine ⟨⟨_, rfl⟩, by rfl, _, _, rfl, rfl, by decide⟩

end Remap.Mapping
