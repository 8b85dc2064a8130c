import Remap.Text.Line
/-!
# Lines of a text

`CutsInto` says what the lines of a text are: each is ended by a line feed, or by a carriage return
and a line feed, and only the last one may have no end. A text that ends its last line can be
followed by another text, whose lines follow too.

Main statements: `not_mem_of_mem_lines`, by which no line has a line feed, `lines_append`, by
which a line that is written with a line feed is read again, `lines_eq_iff` and
`lines_append_of_ends`.
-/

namespace Remap.Text

theorem lines_newline (cs : List Char) : lines ('\n' :: cs) = [] :: lines cs := by
  rw [lines, if_pos rfl]
  simp

/-- A character that does not begin the end of a line belongs to the first line. -/
theorem lines_cons {c : Char} {cs : List Char} (hc : c ≠ '\n')
    (hr : c = '\r' → cs.head? ≠ some '\n') :
    lines (c :: cs) = (c :: (lines cs).headD []) :: (lines cs).tail := by
  rw [lines, if_neg hc]
  · split
    next h => rw [h]; rfl
    next h => rw [h]; rfl
  · rintro cs' rfl rfl
    exact hr rfl rfl

/-- No line has a line feed. -/
theorem not_mem_of_mem_lines {text line : List Char} (h : line ∈ lines text) : '\n' ∉ line := by
  fun_induction lines text generalizing line with
  | case1 => cases h
  -- the two line ends begin a new line, any other character is put in front of the first line
  | case2 cs ih =>
    rcases List.mem_cons.mp h with rfl | h
    · exact List.not_mem_nil
    · exact ih h
  | case3 cs _ ih =>
    rcases List.mem_cons.mp h with rfl | h
    · exact List.not_mem_nil
    · exact ih h
  | case4 c cs _ hc hlines =>
    rw [List.mem_singleton.mp h]
    simpa using Ne.symm hc
  | case5 c cs _ hc l ls hlines ih =>
    rw [hlines] at ih
    rcases List.mem_cons.mp h with rfl | h
    · have hl := ih List.mem_cons_self
      simp [Ne.symm hc, hl]
    · exact ih (List.mem_cons_of_mem l h)

/-- A line that is written with a line feed is the first line of what has been written. -/
theorem lines_append {line : List Char} (rest : List Char) (h : '\n' ∉ line)
    (hr : line.getLast? ≠ some '\r') : lines (line ++ '\n' :: rest) = line :: lines rest := by
  induction line with
  | nil => exact lines_newline rest
  | cons c line ih =>
    rw [List.mem_cons, not_or] at h
    have hlast : line ≠ [] → line.getLast? ≠ some '\r' := by
      intro hne
      rwa [List.getLast?_cons_of_ne_nil hne] at hr
    rw [List.cons_append, lines_cons (Ne.symm h.1)]
    · cases line with
      | nil =>
        rw [List.nil_append, lines_newline]
        rfl
      | cons d line =>
        rw [ih h.2 (hlast (List.cons_ne_nil d line))]
        rfl
    -- a return is a part of the line unless the feed comes right behind it
    · rintro rfl
      cases line with
      | nil => exact absurd rfl hr
      | cons d line =>
        intro hd
        have : d = '\n' := Option.some.inj hd
        simp [this] at h

/-- A line that is written with a carriage return and a line feed is the first line too. -/
theorem lines_append_return {line : List Char} (rest : List Char) (h : '\n' ∉ line) :
    lines (line ++ '\r' :: '\n' :: rest) = line :: lines rest := by
  induction line with
  | nil => rw [List.nil_append, lines]
  | cons c line ih =>
    rw [List.mem_cons, not_or] at h
    rw [List.cons_append, lines_cons (Ne.symm h.1), ih h.2]
    · rfl
    · rintro -
      cases line with
      | nil => simp
      | cons d line =>
        intro hd
        have hd : d = '\n' := Option.some.inj hd
        simp [hd] at h

/-- A text without a line feed is a line of its own. -/
theorem lines_of_not_mem {line : List Char} (hne : line ≠ []) (h : '\n' ∉ line) :
    lines line = [line] := by
  induction line with
  | nil => exact absurd rfl hne
  | cons c line ih =>
    rw [List.mem_cons, not_or] at h
    cases line with
    | nil =>
      rw [lines_cons (Ne.symm h.1) (by simp)]
      rfl
    | cons d line =>
      have hd : d ≠ '\n' := by
        rintro rfl
        exact h.2 List.mem_cons_self
      rw [lines_cons (Ne.symm h.1) (by simp [hd]), ih (List.cons_ne_nil d line) h.2]
      rfl

/-! ## What lines are -/

/-- A text is cut into lines. -/
inductive CutsInto : List Char → List (List Char) → Prop
  | nil : CutsInto [] []
  /-- The last line has no end. -/
  | last {line : List Char} : line ≠ [] → '\n' ∉ line → CutsInto line [line]
  /-- A line is ended by a line feed alone. -/
  | feed {line rest : List Char} {ls : List (List Char)} : '\n' ∉ line →
      line.getLast? ≠ some '\r' → CutsInto rest ls → CutsInto (line ++ '\n' :: rest) (line :: ls)
  /-- A line is ended by a carriage return and a line feed. -/
  | returnFeed {line rest : List Char} {ls : List (List Char)} : '\n' ∉ line →
      CutsInto rest ls → CutsInto (line ++ '\r' :: '\n' :: rest) (line :: ls)

theorem CutsInto.lines_eq {text : List Char} {ls : List (List Char)} (h : CutsInto text ls) :
    lines text = ls := by
  induction h with
  | nil => rfl
  | last hne h => exact lines_of_not_mem hne h
  | feed h hr _ ih => rw [lines_append _ h hr, ih]
  | returnFeed h _ ih => rw [lines_append_return _ h, ih]

/-- One more character in front belongs to the first line, if it begins no end of a line. -/
theorem CutsInto.cons {c : Char} {text l : List Char} {ls : List (List Char)} (hc : c ≠ '\n')
    (hr : c = '\r' → text.head? ≠ some '\n') (h : CutsInto text (l :: ls)) :
    CutsInto (c :: text) ((c :: l) :: ls) := by
  have hmem : '\n' ∉ l → '\n' ∉ c :: l := by
    intro hl hm
    rcases List.mem_cons.mp hm with hm | hm
    · exact hc hm.symm
    · exact hl hm
  cases h with
  | last _ hl => exact .last (List.cons_ne_nil c text) (hmem hl)
  | returnFeed hl hrest => exact .returnFeed (hmem hl) hrest
  | feed hl hlast hrest =>
    refine .feed (hmem hl) ?_ hrest
    cases l with
    | nil =>
      intro he
      exact hr (Option.some.inj he) rfl
    | cons d l => rwa [List.getLast?_cons_cons]

theorem cutsInto_lines (text : List Char) : CutsInto text (lines text) := by
  fun_induction lines text with
  | case1 => exact .nil
  | case2 cs ih => exact @CutsInto.returnFeed [] cs _ List.not_mem_nil ih
  | case3 cs _ ih => exact @CutsInto.feed [] cs _ List.not_mem_nil (by simp) ih
  | case4 c cs _ hc hlines ih =>
    rw [hlines] at ih
    cases ih
    exact .last (List.cons_ne_nil c []) (by simpa using Ne.symm hc)
  | case5 c cs hno hc l ls hlines ih =>
    rw [hlines] at ih
    refine ih.cons hc ?_
    rintro rfl hfeed
    obtain ⟨rest, rfl⟩ := List.head?_eq_some_iff.mp hfeed
    exact hno rest rfl rfl

/-- The lines of a text are what it is cut into. -/
theorem lines_eq_iff {text : List Char} {ls : List (List Char)} :
    lines text = ls ↔ CutsInto text ls :=
  ⟨fun h => h ▸ cutsInto_lines text, CutsInto.lines_eq⟩

theorem eq_nil_of_lines_eq_nil {text : List Char} (h : lines text = []) : text = [] := by
  cases lines_eq_iff.mp h
  rfl

/-! ## Texts that end their last line -/

/-- The text is empty or its last line has an end. -/
def EndsLine (text : List Char) : Prop := text = [] ∨ text.getLast? = some '\n'

theorem EndsLine.of_cons {c : Char} {cs : List Char} (h : EndsLine (c :: cs)) : EndsLine cs := by
  cases cs with
  | nil => exact .inl rfl
  | cons d cs =>
    rcases h with h | h
    · cases h
    · exact .inr (by rwa [List.getLast?_cons_cons] at h)

/-- A character that ends no line has something behind it. -/
theorem EndsLine.ne_nil {c : Char} {cs : List Char} (h : EndsLine (c :: cs)) (hc : c ≠ '\n') :
    cs ≠ [] := by
  rintro rfl
  rcases h with h | h
  · cases h
  · exact hc (Option.some.inj h)

/-- What follows a text that ends its last line begins with a line of its own. -/
theorem lines_append_of_ends {a : List Char} (b : List Char) (h : EndsLine a) :
    lines (a ++ b) = lines a ++ lines b := by
  fun_induction lines a with
  | case1 => rfl
  | case2 cs ih =>
    show lines ([] ++ '\r' :: '\n' :: (cs ++ b)) = _
    rw [lines_append_return _ List.not_mem_nil, ih h.of_cons.of_cons]
    rfl
  | case3 cs _ ih => rw [List.cons_append, lines_newline, ih h.of_cons, List.cons_append]
  | case4 c cs _ hc hlines =>
    exact absurd (eq_nil_of_lines_eq_nil hlines) (h.ne_nil hc)
  | case5 c cs hno hc l ls hlines ih =>
    obtain ⟨d, ds, rfl⟩ := List.exists_cons_of_ne_nil (h.ne_nil hc)
    -- `c` begins no line end in front of `b` that it does not begin alone
    have hr : c = '\r' → (d :: ds ++ b).head? ≠ some '\n' := by
      rintro rfl hfeed
      have hd : d = '\n' := Option.some.inj hfeed
      exact hno ds rfl (by rw [hd])
    rw [hlines] at ih
    rw [List.cons_append, lines_cons hc hr, ih h.of_cons]
    rfl

/-- A text that ends its last line has as many lines as line feeds. -/
theorem length_lines_of_ends {text : List Char} (h : EndsLine text) :
    (lines text).length = text.count '\n' := by
  fun_induction lines text with
  | case1 => rfl
  | case2 cs ih => simp [ih h.of_cons.of_cons]
  | case3 cs _ ih => simp [ih h.of_cons]
  | case4 c cs _ hc hlines =>
    exact absurd (eq_nil_of_lines_eq_nil hlines) (h.ne_nil hc)
  | case5 c cs _ hc l ls hlines ih =>
    have hcount := ih h.of_cons
    rw [hlines] at hcount
    rw [List.count_cons_of_ne hc, ← hcount]
    rfl

/-! ## Lines in their places -/

/-- `line` is a line of the text `a ++ line ++ b`: what stands before it ends a line, and it is the
first line of the rest. -/
structure LineAt (a line b : List Char) : Prop where
  ends : EndsLine a
  first : (lines (line ++ b)).head? = some line

/-- A line goes to the end of the text, to a line feed, or to a carriage return with a line feed. -/
theorem cases_of_head?_lines {line b : List Char} (h : (lines (line ++ b)).head? = some line) :
    '\n' ∉ line ∧
      (b = [] ∧ line ≠ [] ∨
        (∃ rest, b = '\n' :: rest ∧ line.getLast? ≠ some '\r') ∨
        ∃ rest, b = '\r' :: '\n' :: rest) := by
  obtain ⟨ls, hls⟩ := List.head?_eq_some_iff.mp h
  have hcut := lines_eq_iff.mp hls
  generalize htext : line ++ b = text at hcut
  cases hcut with
  | last hne hn =>
    have hb : b = [] := List.append_right_eq_self.mp htext
    exact ⟨hn, .inl ⟨hb, hne⟩⟩
  | @feed _ rest _ hn hr _ =>
    exact ⟨hn, .inr (.inl ⟨rest, List.append_cancel_left htext, hr⟩)⟩
  | @returnFeed _ rest _ hn _ =>
    exact ⟨hn, .inr (.inr ⟨rest, List.append_cancel_left htext⟩)⟩

namespace LineAt

variable {a line b : List Char}

theorem no_newline (h : LineAt a line b) : '\n' ∉ line := (cases_of_head?_lines h.first).1

/-- Another line in the place of a line leaves all others as they are. A carriage return at its end
belongs to the end of the line, if a line feed alone follows. -/
theorem lines_eq (h : LineAt a line b) : ∃ rest, lines (a ++ line ++ b) = lines a ++ line :: rest ∧
    ∀ other, '\n' ∉ other → other ≠ [] → ∃ l,
      (other = l ∨ other = l ++ ['\r'] ∧ line.getLast? ≠ some '\r') ∧
        lines (a ++ other ++ b) = lines a ++ l :: rest := by
  obtain ⟨hn, ⟨rfl, hne⟩ | ⟨rest, rfl, hr⟩ | ⟨rest, rfl⟩⟩ := cases_of_head?_lines h.first
  · refine ⟨[], ?_, ?_⟩
    · rw [List.append_nil, lines_append_of_ends _ h.ends, lines_of_not_mem hne hn]
    · intro other hother hne'
      refine ⟨other, .inl rfl, ?_⟩
      rw [List.append_nil, lines_append_of_ends _ h.ends, lines_of_not_mem hne' hother]
  · refine ⟨lines rest, ?_, ?_⟩
    · rw [List.append_assoc, lines_append_of_ends _ h.ends, lines_append rest hn hr]
    · intro other hother _
      rw [List.append_assoc, lines_append_of_ends _ h.ends]
      -- a return at the end of the new line is taken for a part of the line end
      by_cases hlast : other.getLast? = some '\r'
      · obtain ⟨l, rfl⟩ := List.getLast?_eq_some_iff.mp hlast
        have hl : '\n' ∉ l := fun hm => hother (List.mem_append_left _ hm)
        refine ⟨l, .inr ⟨rfl, hr⟩, ?_⟩
        rw [List.append_assoc]
        exact congrArg _ (lines_append_return rest hl)
      · exact ⟨other, .inl rfl, by rw [lines_append rest hother hlast]⟩
  · refine ⟨lines rest, ?_, ?_⟩
    · rw [List.append_assoc, lines_append_of_ends _ h.ends, lines_append_return rest hn]
    · intro other hother _
      refine ⟨other, .inl rfl, ?_⟩
      rw [List.append_assoc, lines_append_of_ends _ h.ends, lines_append_return rest hother]

end LineAt

end Remap.Text
