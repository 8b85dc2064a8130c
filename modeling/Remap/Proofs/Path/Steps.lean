import Remap.Files.Walk
import Remap.Proofs.Text.Split
/-!
# The steps of a path

What is written behind a path adds its own steps to those of the path: behind a slash
(`steps_append_slash`), and when a relative path is joined to it (`steps_join`). Apart from what
stands in front, the steps of a path are its parts that are not idle, so that they say which parts
there are to walk along: `filterMap_part?_steps`.
-/

namespace Remap.Path

variable {p q : Path} {text part : List Char} {s : Step}

/-- The steps of a text that stands behind a path. -/
def stepsIn (text : List Char) : List Step := (parts text).filterMap stepOf

theorem steps_eq (p : Path) :
    p.steps = (cutLead p.text).1.toList ++ stepsIn (cutLead p.text).2 := rfl

theorem parts_append_slash (a b : List Char) : parts (a ++ '/' :: b) = parts a ++ parts b :=
  Text.splitAt_append_cons (p := (· == '/')) (beq_self_eq_true '/') a b

theorem parts_slash (text : List Char) : parts ('/' :: text) = [] :: parts text :=
  parts_append_slash [] text

theorem stepsIn_append_slash (a b : List Char) :
    stepsIn (a ++ '/' :: b) = stepsIn a ++ stepsIn b := by
  rw [stepsIn, parts_append_slash, List.filterMap_append]
  rfl

/-- What stands in front of a path, and the text behind it. -/
theorem cutLead_cases (text : List Char) :
    (∃ rest, text = '/' :: rest ∧ cutLead text = (some .top, rest)) ∨
    (text = ['.'] ∧ cutLead text = (some .here, [])) ∨
    (∃ rest, text = '.' :: '/' :: rest ∧ cutLead text = (some .here, '/' :: rest)) ∨
    cutLead text = (none, text) := by
  unfold cutLead
  split
  next rest => exact .inl ⟨rest, rfl, rfl⟩
  next => exact .inr (.inl ⟨rfl, rfl⟩)
  next rest => exact .inr (.inr (.inl ⟨rest, rfl, rfl⟩))
  next => exact .inr (.inr (.inr rfl))

/-- The step in front of a path and its parts: behind a dot the first part is empty, and it is the
only one of a path that is a dot. -/
theorem cut_cases (p : Path) :
    (∃ ps, p.cut = (some .top, ps)) ∨ p.cut = (some .here, [[]]) ∨
      (∃ ps, p.cut = (some .here, [] :: ps)) ∨
      (p.cut = (none, parts p.text) ∧ cutLead p.text = (none, p.text)) := by
  rcases cutLead_cases p.text with ⟨rest, -, h⟩ | ⟨-, h⟩ | ⟨rest, -, h⟩ | h
  · exact .inl ⟨parts rest, by rw [cut, h]⟩
  · exact .inr (.inl (by rw [cut, h]; rfl))
  · exact .inr (.inr (.inl ⟨parts rest, by rw [cut, h, parts_slash]⟩))
  · exact .inr (.inr (.inr ⟨by rw [cut, h], h⟩))

theorem text_eq_cut (p : Path) : p.text = leadText p.cut.1 ++ ofParts p.cut.2 := by
  simp [cut, ofParts, parts, Text.join_splitAt, leadText_cutLead]

theorem forall_ne_slash_cut (p : Path) : ∀ q ∈ p.cut.2, ∀ c ∈ q, (c == '/') = false :=
  fun _ hq => Text.of_mem_splitAt hq

/-! ## What stands behind a slash -/

theorem cutLead_append_slash {a : List Char} (ha : a ≠ []) (b : List Char) :
    cutLead (a ++ '/' :: b) = ((cutLead a).1, (cutLead a).2 ++ '/' :: b) := by
  rcases cutLead_cases a with ⟨rest, rfl, -⟩ | ⟨rfl, -⟩ | ⟨rest, rfl, -⟩ | h
  · rfl
  · rfl
  · rfl
  · -- what stands in front of the longer text would stand in front of `a`
    obtain ⟨c, cs, rfl⟩ := List.exists_cons_of_ne_nil ha
    rcases cutLead_cases (c :: cs ++ '/' :: b) with ⟨rest, he, -⟩ | ⟨he, -⟩ | ⟨rest, he, -⟩ | hb
    · cases he
      cases h
    · simp at he
    · rw [List.cons_append, List.cons.injEq] at he
      obtain ⟨rfl, he⟩ := he
      cases cs with
      | nil => cases h
      | cons d ds =>
        cases he
        cases h
    · rw [hb, h]

/-- Behind a slash a text adds its steps. -/
theorem steps_append_slash {a : List Char} (ha : a ≠ []) (b : List Char) :
    steps ⟨a ++ '/' :: b⟩ = steps ⟨a⟩ ++ stepsIn b := by
  rw [steps_eq, steps_eq, cutLead_append_slash ha, stepsIn_append_slash, List.append_assoc]

theorem steps_slash (a : List Char) (ha : a ≠ []) : steps ⟨a ++ ['/']⟩ = steps ⟨a⟩ := by
  rw [steps_append_slash ha]
  exact List.append_nil _

/-- A relative path that is joined to another adds its steps. -/
theorem steps_join (hp : p.text ≠ []) (hq : q.isAbsolute = false) :
    (p.join q).steps = p.steps ++ stepsIn q.text := by
  obtain ⟨text⟩ := p
  have hjoin : ¬ (q.isAbsolute || text == []) = true := by simpa [hq] using hp
  rw [join, if_neg hjoin]
  split
  next hs =>
    obtain ⟨front, rfl⟩ := List.getLast?_eq_some_iff.mp hs
    rw [List.append_assoc, List.singleton_append]
    by_cases hf : front = []
    · subst hf
      rfl
    · rw [steps_append_slash hf, steps_slash front hf]
  next => exact steps_append_slash hp q.text

/-- The name of a path is its last step. -/
theorem getLast?_of_fileName? {name : List Char} (h : p.fileName? = some name) :
    p.steps.getLast? = some (.name name) := by
  unfold fileName? at h
  split at h
  next hlast =>
    cases h
    exact hlast
  next => cases h

/-! ## Parts and steps -/

/-- The part that a step is written as, if it is not one in front. -/
def Step.part? : Step → Option (List Char)
  | up => some ['.', '.']
  | name text => some text
  | _ => none

theorem stepOf_of_idle (h : idle part = true) : stepOf part = none := by rw [stepOf, if_pos h]

theorem filterMap_stepOf_of_idle {ps : List (List Char)} (h : ∀ x ∈ ps, idle x = true) :
    ps.filterMap stepOf = [] :=
  List.filterMap_eq_nil_iff.mpr fun x hx => stepOf_of_idle (h x hx)

theorem idle_of_mem_takeWhile {ps : List (List Char)}
    (h : part ∈ (ps.takeWhile idle).reverse) : idle part = true :=
  List.all_eq_true.mp List.all_takeWhile part (List.mem_reverse.mp h)

/-- The first part behind the idle ones is not idle. -/
theorem not_idle_of_head?_dropWhile {ps : List (List Char)}
    (h : part ∈ (ps.dropWhile idle).head?) : ¬ idle part = true := by
  have := List.head?_dropWhile_not idle ps
  rw [Option.mem_def.mp h] at this
  simpa using this

theorem stepOf_of_not_idle (h : ¬ idle part = true) :
    ∃ s, stepOf part = some s ∧ s.part? = some part := by
  unfold stepOf
  rw [if_neg h]
  split
  next hp => exact ⟨.up, rfl, congrArg some hp.symm⟩
  next => exact ⟨.name part, rfl, rfl⟩

/-- The part of a name among the steps of parts is the name. -/
theorem stepOf_of_mem_filterMap {name : List Char} {ps : List (List Char)}
    (h : .name name ∈ ps.filterMap stepOf) : stepOf name = some (.name name) := by
  obtain ⟨part, -, hs⟩ := List.mem_filterMap.mp h
  have hp : part = name := by
    unfold stepOf at hs
    repeat' split at hs
    all_goals cases hs
    rfl
  exact hp ▸ hs

/-- The steps of joined parts. -/
theorem stepsIn_ofParts {ps : List (List Char)} (hne : ps ≠ [])
    (h : ∀ q ∈ ps, ∀ c ∈ q, (c == '/') = false) : stepsIn (ofParts ps) = ps.filterMap stepOf := by
  rw [stepsIn, parts, ofParts, Text.splitAt_join hne h]

/-- The step of a path that is one part. -/
theorem steps_part {s : Step} (h : stepOf part = some s) (hs : ∀ c ∈ part, (c == '/') = false) :
    steps ⟨part⟩ = [s] := by
  have hlead : cutLead part = (none, part) := by
    rcases cutLead_cases part with ⟨rest, rfl, -⟩ | ⟨rfl, -⟩ | ⟨rest, rfl, -⟩ | hc
    · cases hs '/' List.mem_cons_self
    · cases h
    · cases hs '/' (List.mem_cons_of_mem _ List.mem_cons_self)
    · exact hc
  rw [steps_eq, hlead, stepsIn, parts, Text.splitAt_of_forall hs, List.filterMap_cons, h]
  rfl

/-- The steps of a path that begins with a part that is not idle. -/
theorem steps_ofParts_cons {ps : List (List Char)} (hi : ¬ idle part = true)
    (hs : ∀ q ∈ part :: ps, ∀ c ∈ q, (c == '/') = false) :
    steps ⟨ofParts (part :: ps)⟩ = (part :: ps).filterMap stepOf := by
  obtain ⟨s, hstep, -⟩ := stepOf_of_not_idle hi
  have hpart := steps_part hstep (hs part List.mem_cons_self)
  rw [List.filterMap_cons, hstep]
  -- behind the slash of the first part the others are read as in the middle of a path
  cases ps with
  | nil => exact hpart
  | cons q qs =>
    have hne : part ≠ [] := by
      rintro rfl
      exact hi rfl
    rw [ofParts, Text.join_cons (by simp), List.append_assoc, List.singleton_append,
      steps_append_slash hne, hpart]
    have hrest := stepsIn_ofParts (List.cons_ne_nil q qs)
      fun x hx => hs x (List.mem_cons_of_mem part hx)
    rw [ofParts] at hrest
    rw [hrest]
    rfl

/-- If nothing stands in front of a text that is not empty, its first part is not idle. -/
theorem not_idle_of_parts {ps : List (List Char)} (hc : cutLead text = (none, text))
    (ht : text ≠ []) (hp : parts text = part :: ps) : ¬ idle part = true := by
  intro hi
  have htext : text = ofParts (part :: ps) := by
    rw [← hp]
    exact (Text.join_splitAt '/' text).symm
  have hpart : part = [] ∨ part = ['.'] := by simpa [idle] using hi
  cases ps with
  | nil =>
    rcases hpart with rfl | rfl
    · exact ht htext
    · rw [htext] at hc
      cases hc
  | cons q qs =>
    rw [htext, ofParts, Text.join_cons (by simp)] at hc
    rcases hpart with rfl | rfl <;> cases hc

/-- A path that is cut off behind a part that is not idle has the steps up to there. -/
theorem steps_of_front {front back : List (List Char)} (hc : p.cut.2 = front ++ back)
    (hl : ∀ x ∈ front.getLast?, ¬ idle x = true) :
    steps ⟨leadText p.cut.1 ++ ofParts front⟩ = p.cut.1.toList ++ front.filterMap stepOf := by
  have hslash : ∀ x ∈ front, ∀ c ∈ x, (c == '/') = false := fun x hx =>
    forall_ne_slash_cut p x (hc ▸ List.mem_append_left back hx)
  cases front with
  | nil =>
    rw [ofParts, Text.join, List.append_nil, List.filterMap_nil, List.append_nil]
    rcases cut_cases p with ⟨_, h⟩ | h | ⟨_, h⟩ | ⟨h, -⟩
    all_goals rw [h]; rfl
  | cons x xs =>
    rcases cut_cases p with ⟨ps, h⟩ | h | ⟨ps, h⟩ | ⟨h, hlead⟩
    all_goals rw [h] at hc ⊢
    · exact congrArg (Step.top :: ·) (stepsIn_ofParts (by simp) hslash)
    · -- behind a lone dot there is nothing but an idle part
      obtain ⟨rfl, hxs⟩ := List.cons.inj hc
      obtain ⟨rfl, -⟩ := List.append_eq_nil_iff.mp hxs.symm
      exact absurd rfl (hl [] rfl)
    · -- the first part is the empty one between the dot and the slash
      obtain ⟨rfl, -⟩ := List.cons.inj hc
      cases xs with
      | nil => exact absurd rfl (hl [] rfl)
      | cons y ys =>
        have hrest := stepsIn_ofParts (List.cons_ne_nil y ys)
          fun z hz => hslash z (List.mem_cons_of_mem [] hz)
        have hdot := steps_append_slash (List.cons_ne_nil '.' []) (ofParts (y :: ys))
        rw [hrest] at hdot
        exact hdot
    -- without a lead the first part is a step of its own, except in an empty text
    · have hi : ¬ idle x = true := by
        by_cases ht : p.text = []
        · rw [ht] at hc
          obtain ⟨rfl, hxs⟩ := List.cons.inj hc
          obtain ⟨rfl, -⟩ := List.append_eq_nil_iff.mp hxs.symm
          exact hl [] rfl
        · exact not_idle_of_parts hlead ht hc
      exact steps_ofParts_cons hi hslash

/-- A path that is not empty has a step. -/
theorem steps_ne_nil (h : p.text ≠ []) : p.steps ≠ [] := by
  rw [steps_eq]
  rcases cutLead_cases p.text with ⟨_, -, hc⟩ | ⟨-, hc⟩ | ⟨_, -, hc⟩ | hc
  all_goals rw [hc]
  · simp
  · simp
  · simp
  · obtain ⟨part, ps, hp⟩ := List.exists_cons_of_ne_nil (Text.splitAt_ne_nil (· == '/') p.text)
    obtain ⟨s, hs, -⟩ := stepOf_of_not_idle (not_idle_of_parts hc h hp)
    rw [stepsIn, parts, hp, List.filterMap_cons, hs]
    simp

/-- The steps of parts say which of them are not idle. -/
theorem filterMap_part?_filterMap_stepOf (ps : List (List Char)) :
    (ps.filterMap stepOf).filterMap Step.part? = ps.filter fun part => !idle part := by
  induction ps with
  | nil => rfl
  | cons part ps ih =>
    by_cases h : idle part = true
    · rw [List.filterMap_cons, stepOf_of_idle h, List.filter_cons_of_neg (by simp [h])]
      exact ih
    · obtain ⟨s, hs, hp⟩ := stepOf_of_not_idle h
      rw [List.filterMap_cons, hs, List.filter_cons_of_pos (by simp [h])]
      simp only [List.filterMap_cons, hp, ih]

/-- The steps of a path say which of its parts are not idle. -/
theorem filterMap_part?_steps (p : Path) :
    p.steps.filterMap Step.part? = (parts p.text).filter fun part => !idle part := by
  rw [← filterMap_part?_filterMap_stepOf, steps_eq]
  rcases cutLead_cases p.text with ⟨rest, ht, hc⟩ | ⟨ht, hc⟩ | ⟨rest, ht, hc⟩ | hc
  all_goals rw [hc]
  · rw [ht, parts_slash]
    rfl
  · rw [ht]
    rfl
  · have hdot : parts ('.' :: '/' :: rest) = ['.'] :: parts rest := parts_append_slash ['.'] rest
    rw [ht, hdot, stepsIn, parts_slash]
    rfl
  · rfl

/-- A text behind a path has no steps that stand in front of one. -/
theorem part?_isSome_of_mem_stepsIn (h : s ∈ stepsIn text) : s.part?.isSome = true := by
  obtain ⟨part, -, hs⟩ := List.mem_filterMap.mp h
  have hi : ¬ idle part = true := by
    intro hi
    rw [stepOf_of_idle hi] at hs
    cases hs
  obtain ⟨r, hr, hp⟩ := stepOf_of_not_idle hi
  cases hs.symm.trans hr
  rw [hp]
  rfl

/-! ## Absolute paths -/

theorem isAbsolute_iff : p.isAbsolute = true ↔ ∃ rest, p.text = '/' :: rest := by
  unfold isAbsolute
  cases p.text <;> simp

theorem isAbsolute_join (h : p.isAbsolute = true) : (p.join q).isAbsolute = true := by
  obtain ⟨rest, hp⟩ := isAbsolute_iff.mp h
  unfold join
  split
  next hq => simpa [hp] using hq
  · split
    all_goals simp [isAbsolute_iff, hp]

/-- A path is absolute if its first step is to the top. -/
theorem isAbsolute_iff_head?_steps : p.isAbsolute = true ↔ p.steps.head? = some .top := by
  obtain ⟨text⟩ := p
  rw [steps_eq]
  rcases cutLead_cases text with ⟨rest, rfl, hc⟩ | ⟨rfl, hc⟩ | ⟨rest, rfl, hc⟩ | hc
  · rw [hc]
    exact iff_of_true rfl rfl
  · decide
  · rw [hc]
    exact iff_of_false (by simp [isAbsolute]) (by simp)
  · rw [hc]
    refine iff_of_false (fun ha => ?_) (fun hh => ?_)
    · obtain ⟨rest, rfl⟩ := List.head?_eq_some_iff.mp (by simpa [isAbsolute] using ha)
      cases hc
    · have := part?_isSome_of_mem_stepsIn (List.mem_of_head? hh)
      cases this

end Remap.Path
