import Remap.Proofs.Mapping.Concatenation
import Remap.Proofs.Mapping.Grammar
/-!
# The layout of mapping texts

Blank lines, lines that are comments, comments behind rules and the way in which lines are ended can
be changed at will. The rules and the rejections stay as they are, and so does the invalid line, if
there is one: only its number changes with the lines before it, and it is shown with the comment
behind it.

Main statements: `ofText_append_comment` for one line, `Keeps.ofEdit` for one edit, and `keeps_read`
for any number of them.
-/

namespace Remap.Mapping

open Text (EndsLine LineAt)

/-! ## Comments behind lines -/

/-- A comment behind a line is cut off, unless the line ends with the beginning of its sign. -/
theorem before_append_comment {line : List Char} (h : ¬ [' ', '#'] <:+ line)
    (comment : List Char) :
    Text.before [' ', '#', ' '] (line ++ ([' ', '#', ' '] ++ comment)) =
      Text.before [' ', '#', ' '] line := by
  by_cases hin : [' ', '#', ' '] <:+: line
  · exact Text.before_append (by decide) hin _
  · have habsent : ¬ [' ', '#', ' '] <:+: line ++ [' ', '#'] := by
      rw [show [' ', '#', ' '] = [' ', '#'] ++ [' '] from rfl, Text.concat_infix_append_pair_iff]
      rintro (⟨-, hc⟩ | ⟨hs, -⟩ | hw)
      · cases hc
      · exact h hs
      · exact hin hw
    have hfirst :
        Text.FirstAt [' ', '#', ' '] (line ++ [' ', '#', ' '] ++ comment) line comment :=
      (Text.firstAt_iff_absent (by decide)).mpr habsent
    rw [Text.before_of_not_infix (by decide) hin, Text.before, ← List.append_assoc,
      Text.cutFirst_eq_some_iff.mpr hfirst]

/-- A comment behind a line makes no rule of it, and leaves a rule. -/
theorem isRuleLine_append_comment_iff {line : List Char} (comment : List Char) :
    IsRuleLine {} (line ++ ([' ', '#', ' '] ++ comment)) ↔ IsRuleLine {} line := by
  by_cases hblank : Text.trim line = []
  · have hall := Text.trim_eq_nil_iff.mp hblank
    have hsign : (Text.trim (line ++ ([' ', '#', ' '] ++ comment))).head? = some '#' := by
      rw [Text.head?_trim, Text.trimStart, List.dropWhile_append_of_pos hall]
      rfl
    exact iff_of_false (fun hr => hr.not_comment hsign) (fun hr => hr.not_blank hblank)
  · exact isRuleLine_append_iff hblank _

theorem ofText_append_comment {line : List Char} (h : ¬ [' ', '#'] <:+ line)
    (comment : List Char) :
    Line.ofText {} (line ++ ([' ', '#', ' '] ++ comment)) = Line.ofText {} line := by
  by_cases hrule : IsRuleLine {} line
  · rw [ofText_of_isRuleLine hrule,
      ofText_of_isRuleLine ((isRuleLine_append_comment_iff _).mpr hrule)]
    dsimp only
    rw [before_append_comment h]
  · rw [ofText_of_not_isRuleLine hrule,
      ofText_of_not_isRuleLine (mt (isRuleLine_append_comment_iff _).mp hrule)]

/-! ## What layout leaves -/

/-- Two outcomes have the same rules and the same rejections. If there is an invalid line, it is the
same one, except that lines are numbered anew and that a comment may stand behind it. -/
structure Keeps (number : Nat → Nat) (o o' : Outcome) : Prop where
  rejections : o'.rejections = o.rejections
  accepted : ∀ rules, o.rules = .ok rules → o'.rules = .ok rules
  refused : ∀ e, o.rules = .error e → ∃ comment,
    (comment = [] ∨ [' ', '#', ' '] <+: comment) ∧
      o'.rules = .error ⟨number e.line, e.text ++ comment⟩

namespace Keeps

variable {f g : Nat → Nat} {o o' o'' first : Outcome}

/-- Nothing is changed where all numbers that matter stay as they are. -/
theorem refl (h : ∀ e, o.rules = .error e → f e.line = e.line) : Keeps f o o where
  rejections := rfl
  accepted _ := id
  refused e he := ⟨[], .inl rfl, by rw [he, h e he, List.append_nil]⟩

theorem trans (h : Keeps f o o') (h' : Keeps g o' o'') : Keeps (g ∘ f) o o'' where
  rejections := h'.rejections.trans h.rejections
  accepted rules hr := h'.accepted rules (h.accepted rules hr)
  refused e he := by
    obtain ⟨comment, hc, he'⟩ := h.refused e he
    obtain ⟨comment', hc', he''⟩ := h'.refused _ he'
    refine ⟨comment ++ comment', ?_, by rw [he'', List.append_assoc]; rfl⟩
    rcases hc with rfl | hc
    · exact hc'
    · exact .inr (hc.trans (List.prefix_append _ _))

/-- What is the same behind some lines is the same with these lines. -/
theorem andThen (hfirst : ∀ e, first.rules = .error e → f e.line = e.line) (h : Keeps f o o') :
    Keeps f (first.andThen o) (first.andThen o') := by
  cases hrules : first.rules with
  | error e =>
    rw [Outcome.andThen_of_error hrules, Outcome.andThen_of_error hrules]
    exact refl hfirst
  | ok front =>
    refine ⟨?_, ?_, ?_⟩
    · rw [Outcome.rejections_andThen_of_ok hrules, Outcome.rejections_andThen_of_ok hrules,
        h.rejections]
    · intro rules ho
      rw [Outcome.rules_andThen_of_ok hrules] at ho ⊢
      cases hback : o.rules with
      | error e =>
        rw [hback] at ho
        cases ho
      | ok back => rw [h.accepted back hback, ← ho, hback]
    -- an error behind an accepted front is that of the whole
    · intro e ho
      rw [Outcome.rules_andThen_of_ok hrules] at ho ⊢
      cases hback : o.rules with
      | error e' =>
        rw [hback] at ho
        obtain ⟨comment, hc, ho'⟩ := h.refused e' hback
        cases ho
        exact ⟨comment, hc, by rw [ho']; rfl⟩
      | ok back =>
        rw [hback] at ho
        cases ho

end Keeps

/-- The invalid line is one of those that are read. -/
theorem line_of_error {n : Nat} {lines : List (List Char)} {e : InvalidLine}
    (h : (readLines {} n lines).rules = .error e) : n ≤ e.line ∧ e.line < n + lines.length := by
  have hreads := readsAs_readLines {} n lines
  rw [h] at hreads
  generalize (readLines {} n lines).rejections = rejections at hreads
  cases hreads with
  | refused hlines =>
    rw [hlines, List.length_append, List.length_cons]
    dsimp only
    omega

/-- A line with a comment behind it stands for the line without. -/
theorem keeps_comment (n : Nat) (front back : List (List Char)) {line : List Char}
    (h : ¬ [' ', '#'] <:+ line) (comment : List Char) :
    Keeps id (readLines {} n (front ++ line :: back))
      (readLines {} n (front ++ (line ++ ([' ', '#', ' '] ++ comment)) :: back)) := by
  rw [readLines_append, readLines_append]
  refine .andThen (fun _ _ => rfl) ?_
  rw [readLines, readLines, ofText_append_comment h]
  cases Line.ofText {} line with
  | passed => exact .refl fun _ _ => rfl
  | rule token replacement => exact .refl fun _ _ => rfl
  | invalid =>
    refine ⟨rfl, ?_, ?_⟩
    · intro rules hr
      cases hr
    · intro e he
      cases he
      exact ⟨_, .inr (List.prefix_append _ _), rfl⟩

/-- Behind a line that is passed over, lines are counted on. -/
theorem keeps_insert (front back : List (List Char)) {line : List Char}
    (h : ¬ IsRuleLine {} line) :
    Keeps (fun n => if n ≤ front.length then n else n + 1) (readLines {} 1 (front ++ back))
      (readLines {} 1 (front ++ line :: back)) := by
  rw [readLines_append, readLines_append]
  -- errors in front keep their number, those behind the new line are counted one further
  refine .andThen ?_ ?_
  · intro e he
    have := (line_of_error he).2
    exact if_pos (by omega)
  · rw [readLines, ofText_of_not_isRuleLine h]
    show Keeps _ _ (readLines {} (1 + front.length + 1) back)
    rw [readLines_add {} (1 + front.length) 1]
    refine ⟨Outcome.rejections_shift _ _, ?_, ?_⟩
    · intro rules hr
      rw [Outcome.rules_shift, hr]
      rfl
    · intro e he
      have hle := (line_of_error he).1
      refine ⟨[], .inl rfl, ?_⟩
      rw [Outcome.rules_shift, he, if_neg (by omega), List.append_nil]
      rfl

/-! ## Edits -/

/-- The lines of a text are laid out otherwise, by which they get other numbers. -/
inductive Edit : (number : Nat → Nat) → (text text' : List Char) → Prop
  /-- A line that is blank or a comment is put in front of a line, or behind the last one. -/
  | insert {a line ending b : List Char} : EndsLine a → '\n' ∉ line → ¬ IsRuleLine {} line →
      ending = ['\n'] ∨ ending = ['\r', '\n'] →
      Edit (fun n => if n ≤ a.count '\n' then n else n + 1) (a ++ b) (a ++ (line ++ ending ++ b))
  /-- A line is ended by a carriage return and a line feed instead of a line feed alone. -/
  | returnFeed {a line rest : List Char} : LineAt a line ('\n' :: rest) →
      Edit id (a ++ line ++ '\n' :: rest) (a ++ line ++ '\r' :: '\n' :: rest)
  /-- A comment is written behind a line that does not end with the beginning of its sign. -/
  | comment {a line b comment : List Char} : LineAt a line b → ¬ [' ', '#'] <:+ line →
      '\n' ∉ comment →
      Edit id (a ++ line ++ b) (a ++ (line ++ ([' ', '#', ' '] ++ comment)) ++ b)

/-- Any number of edits, one after the other. -/
inductive Edits : (number : Nat → Nat) → (text text' : List Char) → Prop
  | none {text : List Char} : Edits id text text
  | more {f g : Nat → Nat} {a b c : List Char} : Edits f a b → Edit g b c → Edits (g ∘ f) a c

/-- A line that is put in front of a text is passed over when its carriage return is taken off. -/
theorem exists_lines_insert {line ending : List Char} (hn : '\n' ∉ line)
    (h : ¬ IsRuleLine {} line) (hending : ending = ['\n'] ∨ ending = ['\r', '\n'])
    (b : List Char) :
    ∃ l, ¬ IsRuleLine {} l ∧ Text.lines (line ++ ending ++ b) = l :: Text.lines b := by
  rw [List.append_assoc]
  rcases hending with rfl | rfl
  · by_cases hlast : line.getLast? = some '\r'
    · obtain ⟨l, rfl⟩ := List.getLast?_eq_some_iff.mp hlast
      have hl : '\n' ∉ l := fun hm => hn (List.mem_append_left _ hm)
      have htrim : Text.trim (l ++ ['\r']) = Text.trim l :=
        Text.trim_concat_of_blank (by decide) l
      refine ⟨l, (isRuleLine_iff_of_trim_eq htrim).not.mp h, ?_⟩
      rw [List.append_assoc]
      exact Text.lines_append_return b hl
    · exact ⟨line, h, Text.lines_append b hn hlast⟩
  · exact ⟨line, h, Text.lines_append_return b hn⟩

/-- A comment behind a line stays behind it, less a carriage return at its end where that belongs to
the end of the line. -/
theorem exists_lines_comment {a line b comment : List Char} (hplace : LineAt a line b)
    (hn : '\n' ∉ comment) :
    ∃ behind rest, Text.lines (a ++ line ++ b) = Text.lines a ++ line :: rest ∧
      Text.lines (a ++ (line ++ ([' ', '#', ' '] ++ comment)) ++ b) =
        Text.lines a ++ (line ++ ([' ', '#', ' '] ++ behind)) :: rest := by
  obtain ⟨rest, hlines, hother⟩ := hplace.lines_eq
  have hn' : '\n' ∉ line ++ ([' ', '#', ' '] ++ comment) := by
    simp [hplace.no_newline, hn]
  obtain ⟨l, hl, hnew⟩ := hother _ hn' (by simp)
  rcases hl with rfl | ⟨hreturn, -⟩
  · exact ⟨comment, rest, hlines, hnew⟩
  · -- the sign ends with a space, so that the carriage return belongs to the comment
    rcases List.eq_nil_or_concat comment with rfl | ⟨behind, c, rfl⟩
    · have hlast := congrArg List.getLast? hreturn
      simp at hlast
    · have heq : (line ++ ([' ', '#', ' '] ++ behind)) ++ [c] = l ++ ['\r'] := by
        rw [← hreturn]
        simp only [List.append_assoc, List.concat_eq_append]
      obtain rfl := List.append_inj_left' heq rfl
      exact ⟨behind, rest, hlines, hnew⟩

/-- What is read stays as it is in one edit. -/
theorem Keeps.ofEdit {number : Nat → Nat} {text text' : List Char} (h : Edit number text text') :
    Keeps number (read {} text) (read {} text') := by
  unfold read
  cases h with
  | @insert a line ending b ha hn hline hending =>
    obtain ⟨l, hl, htext⟩ := exists_lines_insert hn hline hending b
    rw [Text.lines_append_of_ends _ ha, Text.lines_append_of_ends _ ha, htext,
      ← Text.length_lines_of_ends ha]
    exact keeps_insert _ _ hl
  | @returnFeed a line rest hplace =>
    obtain ⟨hn, ⟨hb, -⟩ | ⟨rest', hb, hr⟩ | ⟨rest', hb⟩⟩ := Text.cases_of_head?_lines hplace.first
    · cases hb
    · cases hb
      rw [List.append_assoc, List.append_assoc, Text.lines_append_of_ends _ hplace.ends,
        Text.lines_append_of_ends _ hplace.ends, Text.lines_append _ hn hr,
        Text.lines_append_return _ hn]
      exact .refl fun _ _ => rfl
    · cases hb
  | @comment a line b comment hplace hsign hn =>
    obtain ⟨behind, rest, hlines, hnew⟩ := exists_lines_comment hplace hn
    rw [hlines, hnew]
    exact keeps_comment 1 _ rest hsign behind

/-- The layout of a mapping text carries no meaning: what is read stays as it is, however often the
text is laid out anew. -/
theorem keeps_read {number : Nat → Nat} {text text' : List Char} (h : Edits number text text') :
    Keeps number (read {} text) (read {} text') := by
  induction h with
  | none => exact .refl fun _ _ => rfl
  | more _ hedit ih => exact ih.trans (.ofEdit hedit)

theorem keeps_read_refused :
    ∃ number, Edits number "a => b\nc #d".toList "\t# e\r\na => b\r\nc #d # \r".toList ∧
      number 2 = 3 ∧
      (read {} "a => b\nc #d".toList).rules = .error ⟨2, "c #d".toList⟩ ∧
      ∃ comment, (read {} "\t# e\r\na => b\r\nc #d # \r".toList).rules =
        .error ⟨3, "c #d".toList ++ comment⟩ := by
  have hinsert := @Edit.insert [] "\t# e".toList ['\r', '\n'] "a => b\nc #d".toList (.inl rfl)
    (by decide) (by decide) (.inr rfl)
  have hreturn := @Edit.returnFeed "\t# e\r\n".toList "a => b".toList "c #d".toList ⟨.inr rfl, rfl⟩
  have hcomment := @Edit.comment "\t# e\r\na => b\r\n".toList "c #d".toList [] ['\r']
    ⟨.inr rfl, rfl⟩ (by decide) (by decide)
  have hedits := ((Edits.none.more hinsert).more hreturn).more hcomment
  have hread : (read {} "a => b\nc #d".toList).rules = .error ⟨2, "c #d".toList⟩ := by rfl
  obtain ⟨comment, -, hnew⟩ := (keeps_read hedits).refused _ hread
  exact ⟨_, hedits, rfl, hread, comment, hnew⟩

end Remap.Mapping
