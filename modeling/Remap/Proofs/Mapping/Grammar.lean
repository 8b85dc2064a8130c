import Remap.Mapping.Parser
import Remap.Proofs.Text.Blank
import Remap.Proofs.Text.First
import Remap.Proofs.Text.Line
/-!
# The grammar of mapping texts

Which lines have to be rules, when such a line is well formed, and what it says, is stated here
without the reader. `ReadsAs` puts it together: lines are read up to the first rule line that is not
well formed, or to the end.

Main statements: `ofText_of_not_isRuleLine`, `ofText_of_not_wellFormed` and `ofText_of_wellFormed`
for one line, `ReadsAs.pass`, `ReadsAs.stop` and `ReadsAs.rule` for one line before others, and
`readsAs_read` for a whole text.
-/

namespace Remap.Mapping

variable {s : MappingSyntax} {line : List Char}

/-! ## Lines -/

/-- A line that has to be a rule: it is neither blank nor a comment. -/
structure IsRuleLine (s : MappingSyntax) (line : List Char) : Prop where
  not_blank : Text.trim line ≠ []
  not_comment : (Text.trim line).head? ≠ some s.lineComment

instance (s : MappingSyntax) (line : List Char) : Decidable (IsRuleLine s line) :=
  decidable_of_iff (Text.trim line ≠ [] ∧ (Text.trim line).head? ≠ some s.lineComment)
    ⟨fun h => ⟨h.1, h.2⟩, fun h => ⟨h.not_blank, h.not_comment⟩⟩

/-- The white space around a line does not matter. -/
theorem isRuleLine_iff_of_trim_eq {line' : List Char} (h : Text.trim line' = Text.trim line) :
    IsRuleLine s line' ↔ IsRuleLine s line :=
  ⟨fun hr => ⟨h ▸ hr.not_blank, h ▸ hr.not_comment⟩,
    fun hr => ⟨h ▸ hr.not_blank, h ▸ hr.not_comment⟩⟩

theorem isRuleLine_of_head? {c : Char} (h : (Text.trim line).head? = some c)
    (hc : c ≠ s.lineComment) : IsRuleLine s line := by
  refine ⟨?_, fun hcomment => hc (Option.some.inj (h.symm.trans hcomment))⟩
  intro hnil
  rw [hnil] at h
  cases h

/-- What stands behind a line that is not blank makes no comment of it. -/
theorem isRuleLine_append_iff (h : Text.trim line ≠ []) (more : List Char) :
    IsRuleLine s (line ++ more) ↔ IsRuleLine s line := by
  have hhead := Text.head?_trim_of_isPrefix (List.prefix_append line more) h
  have hne : Text.trim (line ++ more) ≠ [] := by
    intro hnil
    rw [hnil] at hhead
    exact h (List.head?_eq_none_iff.mp hhead)
  constructor
  · exact fun hr => ⟨h, hhead ▸ hr.not_comment⟩
  · exact fun hr => ⟨hne, hhead ▸ hr.not_comment⟩

/-- The part of a line before the first sign of a comment; the whole line if there is none. -/
inductive Uncommented (s : MappingSyntax) (line : List Char) : List Char → Prop
  | cut {part comment : List Char} :
      Text.FirstAt s.inlineComment line part comment → Uncommented s line part
  | whole : ¬ s.inlineComment <:+: line → Uncommented s line line

/-- The texts before and after the first arrow in that part of a line. -/
inductive HasArrow (s : MappingSyntax) (line left right : List Char) : Prop
  | intro {part : List Char} : Uncommented s line part → Text.FirstAt s.arrow part left right →
      HasArrow s line left right

/-- There is an arrow, and what stands before it is not all white space. -/
def WellFormed (s : MappingSyntax) (line : List Char) : Prop :=
  ∃ left right, HasArrow s line left right ∧ ∃ c ∈ left, Text.isBlank c = false

/-- The matcher of a token: the token itself, or a pattern if it is written as one. A token that is
written as a pattern and cannot be compiled stands for itself, and is reported. -/
inductive Denotes (token : List Char) : Matcher → Option Rejection → Prop
  | literal : isPatternToken token = false → Denotes token (.literal token) none
  | pattern {body letters : List Char} {p : Pattern} : splitToken token = some (body, letters) →
      Pattern.compile body letters = .ok p → Denotes token (.pattern p) none
  | rejected {body letters : List Char} {reason : PatternError} :
      splitToken token = some (body, letters) → Pattern.compile body letters = .error reason →
      Denotes token (.literal token) (some { token, reason })

/-- The rule of a line, and why its token is no pattern if it looks like one. -/
inductive Says (s : MappingSyntax) (line : List Char) : Rule × Option Rejection → Prop
  | rule {left right : List Char} {matcher : Matcher} {rejection : Option Rejection} :
      HasArrow s line left right → Denotes (Text.trim left) matcher rejection →
      Says s line
        ({ matcher
           replacement :=
             if s.unescapeSpaces then unescapeSpaces (Text.trim right) else Text.trim right },
          rejection)

/-! ## Lines as they are taken apart -/

theorem uncommented_iff {part : List Char} :
    Uncommented s line part ↔ Text.before s.inlineComment line = part := by
  unfold Text.before
  constructor
  · intro h
    cases h with
    | cut h => rw [Text.cutFirst_eq_some_iff.mpr h]
    | whole h =>
      cases hcut : Text.cutFirst s.inlineComment line with
      | none => rfl
      | some x => exact absurd ⟨x.1, x.2, (Text.eq_of_cutFirst hcut).symm⟩ h
  · rintro rfl
    -- the first sign is cut off where there is one, and there is none in what is left whole
    split
    next hcut => exact .cut (Text.cutFirst_eq_some_iff.mp hcut)
    next hcut =>
      refine .whole fun hin => ?_
      obtain ⟨b, a, hsome⟩ := Text.isSome_cutFirst hin
      rw [hcut] at hsome
      cases hsome

theorem hasArrow_iff {left right : List Char} : HasArrow s line left right ↔
    Text.cutFirst s.arrow (Text.before s.inlineComment line) = some (left, right) := by
  rw [Text.cutFirst_eq_some_iff]
  constructor
  · rintro ⟨hpart, harrow⟩
    rwa [uncommented_iff.mp hpart]
  · exact fun h => .intro (uncommented_iff.mpr rfl) h

/-- Something is left of the text before the arrow exactly if it is not all white space. -/
theorem wellFormed_iff : WellFormed s line ↔
    ∃ left right, HasArrow s line left right ∧ Text.trim left ≠ [] := by
  unfold WellFormed
  simp only [ne_eq, Text.trim_eq_nil_iff, not_forall, Bool.not_eq_true, exists_prop]

theorem denotes_ofToken (token : List Char) :
    Denotes token (Matcher.ofToken token).1 (Matcher.ofToken token).2 := by
  unfold Matcher.ofToken
  split
  next h => exact .literal (by rw [isPatternToken, h]; rfl)
  next h =>
    split
    next hp => exact .pattern h hp
    next he => exact .rejected h he

theorem ofText_of_not_isRuleLine (h : ¬ IsRuleLine s line) : Line.ofText s line = .passed := by
  unfold Line.ofText
  split
  · rfl
  next c rest htrim =>
    split
    · rfl
    next hc =>
      have hrule : IsRuleLine s line := by
        constructor
        · rw [htrim]
          exact List.cons_ne_nil c rest
        · rw [htrim]
          exact fun he => hc (Option.some.inj he)
      exact absurd hrule h

/-- In a line that has to be a rule, all depends on the arrow. -/
theorem ofText_of_isRuleLine (h : IsRuleLine s line) : Line.ofText s line =
    match Text.cutFirst s.arrow (Text.before s.inlineComment line) with
    | none => .invalid
    | some (left, right) =>
      if Text.trim left = [] then .invalid else .rule (Text.trim left) (Text.trim right) := by
  unfold Line.ofText
  split
  next htrim => exact absurd htrim h.not_blank
  next c rest htrim =>
    have hc : c ≠ s.lineComment := by
      rintro rfl
      exact h.not_comment (by rw [htrim]; rfl)
    -- `Line.ofText` tells a missing token by its shape, the statement by an equation
    rw [if_neg hc]
    cases Text.cutFirst s.arrow (Text.before s.inlineComment line) with
    | none => rfl
    | some parts =>
      dsimp only
      cases Text.trim parts.1 with
      | nil => rfl
      | cons x xs => rfl

theorem ofText_of_not_wellFormed (h : IsRuleLine s line) (hw : ¬ WellFormed s line) :
    Line.ofText s line = .invalid := by
  rw [ofText_of_isRuleLine h]
  split
  · rfl
  next left right hcut =>
    rw [wellFormed_iff] at hw
    apply if_pos
    apply Classical.byContradiction
    intro hleft
    exact hw ⟨left, right, hasArrow_iff.mpr hcut, hleft⟩

/-- A well formed line is taken apart at its arrow. -/
theorem ofText_of_wellFormed (h : IsRuleLine s line) (hw : WellFormed s line) :
    ∃ left right, HasArrow s line left right ∧
      Line.ofText s line = .rule (Text.trim left) (Text.trim right) := by
  obtain ⟨left, right, harrow, hleft⟩ := wellFormed_iff.mp hw
  refine ⟨left, right, harrow, ?_⟩
  rw [ofText_of_isRuleLine h, hasArrow_iff.mp harrow]
  exact if_neg hleft

/-- What is read of a rule line are the texts around its arrow. -/
theorem exists_of_ofText_eq_rule {token raw : List Char}
    (h : Line.ofText s line = .rule token raw) :
    IsRuleLine s line ∧ ∃ left right, HasArrow s line left right ∧ Text.trim left ≠ [] ∧
      Text.trim left = token ∧ Text.trim right = raw := by
  by_cases hrule : IsRuleLine s line
  · refine ⟨hrule, ?_⟩
    rw [ofText_of_isRuleLine hrule] at h
    split at h
    · cases h
    next left right hcut =>
      split at h
      · cases h
      next hleft =>
        obtain ⟨htoken, hraw⟩ := Line.rule.inj h
        exact ⟨left, right, hasArrow_iff.mpr hcut, hleft, htoken, hraw⟩
  · rw [ofText_of_not_isRuleLine hrule] at h
    cases h

/-- The entry that is made of a line has what the line says. -/
theorem says_make {left right : List Char} (h : HasArrow s line left right) (n : Nat) :
    Says s line ((Entry.make s n (Text.trim left) (Text.trim right)).rule,
      (Entry.make s n (Text.trim left) (Text.trim right)).rejection) :=
  .rule h (denotes_ofToken (Text.trim left))

/-! ## Texts -/

/-- What is to be read from lines, the first of which has the number `n`: either all rule lines are
well formed, and each gives its rule, or the first one that is not is the error. The rejections are
those of the rule lines before it, or of all. -/
inductive ReadsAs (s : MappingSyntax) (n : Nat) (lines : List (List Char)) :
    Except InvalidLine RuleSet → List Rejection → Prop
  | accepted {said : List (Rule × Option Rejection)} :
      (∀ line ∈ lines, IsRuleLine s line → WellFormed s line) →
      List.Forall₂ (Says s) (lines.filter (IsRuleLine s ·)) said →
      ReadsAs s n lines (.ok (said.map Prod.fst)) (said.filterMap Prod.snd)
  | refused {front back : List (List Char)} {line : List Char}
      {said : List (Rule × Option Rejection)} :
      lines = front ++ line :: back →
      (∀ line ∈ front, IsRuleLine s line → WellFormed s line) →
      IsRuleLine s line → ¬ WellFormed s line →
      List.Forall₂ (Says s) (front.filter (IsRuleLine s ·)) said →
      ReadsAs s n lines (.error ⟨n + front.length, line⟩) (said.filterMap Prod.snd)

namespace ReadsAs

variable {n : Nat} {rest : List (List Char)} {r : Except InvalidLine RuleSet} {ws : List Rejection}

/-- If one more line in front is passed over or well formed, so are all rule lines. -/
theorem forall_cons {lines : List (List Char)} (h : IsRuleLine s line → WellFormed s line)
    (hls : ∀ l ∈ lines, IsRuleLine s l → WellFormed s l) :
    ∀ l ∈ line :: lines, IsRuleLine s l → WellFormed s l := by
  intro l hl hrule
  rcases List.mem_cons.mp hl with rfl | hl
  · exact h hrule
  · exact hls l hl hrule

/-- Lines that are passed over are counted. -/
theorem pass (h : ¬ IsRuleLine s line) (hr : ReadsAs s (n + 1) rest r ws) :
    ReadsAs s n (line :: rest) r ws := by
  have hfilter : ∀ ls, (line :: ls).filter (IsRuleLine s ·) = ls.filter (IsRuleLine s ·) :=
    fun ls => List.filter_cons_of_neg (by simpa using h)
  cases hr with
  | accepted hwell hsaid =>
    refine .accepted (forall_cons (fun hrule => absurd hrule h) hwell) ?_
    rw [hfilter]
    exact hsaid
  | @refused front back bad said hrest hwell hrule hbad hsaid =>
    have hnumber : n + 1 + front.length = n + (line :: front).length := by
      rw [List.length_cons, Nat.add_assoc, Nat.add_comm 1]
    rw [hnumber]
    refine .refused (by rw [hrest]; rfl) (forall_cons (fun hrule => absurd hrule h) hwell) hrule
      hbad ?_
    rw [hfilter]
    exact hsaid

/-- A rule line that is not well formed ends the reading. -/
theorem stop (h : IsRuleLine s line) (hw : ¬ WellFormed s line) :
    ReadsAs s n (line :: rest) (.error ⟨n, line⟩) [] := by
  show ReadsAs s n (line :: rest) (.error ⟨n + ([] : List (List Char)).length, line⟩)
    (([] : List (Rule × Option Rejection)).filterMap Prod.snd)
  exact .refused rfl (fun _ hl => absurd hl List.not_mem_nil) h hw .nil

/-- A well formed rule line has its rule before those that follow. -/
theorem rule {x : Rule × Option Rejection} (h : IsRuleLine s line) (hw : WellFormed s line)
    (hx : Says s line x) (hr : ReadsAs s (n + 1) rest r ws) :
    ReadsAs s n (line :: rest) (r.map (x.1 :: ·)) (x.2.toList ++ ws) := by
  have hfilter : ∀ ls, (line :: ls).filter (IsRuleLine s ·) = line :: ls.filter (IsRuleLine s ·) :=
    fun ls => List.filter_cons_of_pos (by simpa using h)
  have hsnd : ∀ said : List (Rule × Option Rejection),
      x.2.toList ++ said.filterMap Prod.snd = (x :: said).filterMap Prod.snd := by
    intro said
    rw [List.filterMap_cons]
    cases x.2 <;> rfl
  cases hr with
  | @accepted said hwell hsaid =>
    rw [hsnd]
    show ReadsAs s n (line :: rest) (.ok ((x :: said).map Prod.fst)) _
    refine .accepted (forall_cons (fun _ => hw) hwell) ?_
    rw [hfilter]
    exact .cons hx hsaid
  | @refused front back bad said hrest hwell hrule hbad hsaid =>
    have hnumber : n + 1 + front.length = n + (line :: front).length := by
      rw [List.length_cons, Nat.add_assoc, Nat.add_comm 1]
    rw [hsnd, hnumber]
    show ReadsAs s n (line :: rest) (.error ⟨n + (line :: front).length, bad⟩) _
    refine .refused (by rw [hrest]; rfl) (forall_cons (fun _ => hw) hwell) hrule hbad ?_
    rw [hfilter]
    exact .cons hx hsaid

/-- An error is read exactly if some rule line is not well formed. -/
theorem error_iff {lines : List (List Char)} (h : ReadsAs s n lines r ws) :
    (∃ e, r = .error e) ↔ ∃ line ∈ lines, IsRuleLine s line ∧ ¬ WellFormed s line := by
  cases h with
  | accepted hwell hsaid =>
    constructor
    · rintro ⟨e, he⟩
      cases he
    · rintro ⟨line, hline, hrule, hbad⟩
      exact absurd (hwell line hline hrule) hbad
  | @refused front back bad said hlines hwell hrule hbad hsaid =>
    refine iff_of_true ⟨_, rfl⟩ ⟨bad, ?_, hrule, hbad⟩
    rw [hlines]
    exact List.mem_append_right front List.mem_cons_self

end ReadsAs

/-! ## The reader -/

theorem Outcome.rules_cons (entry : Entry) (o : Outcome) :
    Outcome.rules { o with entries := entry :: o.entries } = o.rules.map (entry.rule :: ·) := by
  obtain ⟨entries, invalid⟩ := o
  cases invalid <;> rfl

theorem Outcome.rejections_cons (entry : Entry) (o : Outcome) :
    Outcome.rejections { o with entries := entry :: o.entries } =
      entry.rejection.toList ++ o.rejections := by
  unfold Outcome.rejections
  rw [List.filterMap_cons]
  cases entry.rejection <;> rfl

/-- Lines are read as the grammar says. -/
theorem readsAs_readLines (s : MappingSyntax) (n : Nat) (lines : List (List Char)) :
    ReadsAs s n lines (readLines s n lines).rules (readLines s n lines).rejections := by
  -- each line is one step, and the lines behind it are read from the next number on
  induction lines generalizing n with
  | nil =>
    show ReadsAs s n [] (.ok (([] : List (Rule × Option Rejection)).map Prod.fst))
      (([] : List (Rule × Option Rejection)).filterMap Prod.snd)
    exact .accepted (fun _ hl => absurd hl List.not_mem_nil) .nil
  | cons line rest ih =>
    rw [readLines]
    by_cases hrule : IsRuleLine s line
    · by_cases hwell : WellFormed s line
      · obtain ⟨left, right, harrow, htext⟩ := ofText_of_wellFormed hrule hwell
        rw [htext]
        dsimp only
        rw [Outcome.rules_cons, Outcome.rejections_cons]
        exact .rule hrule hwell (says_make harrow n) (ih (n + 1))
      · rw [ofText_of_not_wellFormed hrule hwell]
        exact .stop hrule hwell
    · rw [ofText_of_not_isRuleLine hrule]
      exact .pass hrule (ih (n + 1))

/-- A mapping text is cut into lines, which are read as the grammar says: it is refused exactly if
some rule line is not well formed, and the error is the first of them. -/
theorem readsAs_read (s : MappingSyntax) (text : List Char) :
    ∃ lines, Text.CutsInto text lines ∧
      ((∃ e, (read s text).rules = .error e) ↔
        ∃ line ∈ lines, IsRuleLine s line ∧ ¬ WellFormed s line) ∧
      ReadsAs s 1 lines (read s text).rules (read s text).rejections := by
  have hreads := readsAs_readLines s 1 (Text.lines text)
  exact ⟨Text.lines text, Text.cutsInto_lines text, hreads.error_iff, hreads⟩

/-- Before an empty arrow there is nothing, so that no line is a rule. -/
example : (read { arrow := [] } "# a\n b => c".toList).rules = .error ⟨2, " b => c".toList⟩ := by
  rfl

end Remap.Mapping
