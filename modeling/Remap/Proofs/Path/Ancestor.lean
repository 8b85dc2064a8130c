import Remap.Proofs.Path.Steps
/-!
# The paths above a path

`Above q p` says that `q` is reached from `p` by going up from parent to parent. A parent is written
like the beginning of the path, up to a slash, so that its names come first among the names of
the path, and its steps are all steps of the path but one.

Main statements: `names_of_parent?` and `steps_of_parent?`.
-/

namespace Remap.Path

variable {p q : Path}

/-- The first path is reached from the second by going up from parent to parent. -/
inductive Above : Path → Path → Prop
  | parent {q p : Path} : p.parent? = some q → Above q p
  | up {q r p : Path} : p.parent? = some r → Above q r → Above q p

/-- What is above a path is its parent, or above it. -/
theorem above_iff {r : Path} (h : p.parent? = some r) : q.Above p ↔ q = r ∨ q.Above r := by
  constructor
  · rintro (hq | ⟨hr, hq⟩)
    · exact .inl (Option.some.inj (hq.symm.trans h))
    · obtain rfl := Option.some.inj (hr.symm.trans h)
      exact .inr hq
  · rintro (rfl | hq)
    · exact .parent h
    · exact .up h hq

theorem not_above (h : p.parent? = none) : ¬ q.Above p := by
  rintro (hq | ⟨hr, -⟩)
  · cases hq.symm.trans h
  · cases hr.symm.trans h

/-! ## Names of a text in two parts -/

theorem names_append_slash (a b : List Char) :
    names ⟨a ++ '/' :: b⟩ = names ⟨a⟩ ++ names ⟨b⟩ := by
  simp only [names, parts_append_slash, List.filter_append]

theorem names_slash_cons (b : List Char) : names ⟨'/' :: b⟩ = names ⟨b⟩ :=
  names_append_slash [] b

/-- A text that has a step has a name. -/
theorem names_ne_nil {more : List Char} (h : stepsIn more ≠ []) : names ⟨more⟩ ≠ [] := by
  intro hn
  refine h (List.filterMap_eq_nil_iff.mpr fun part hp => ?_)
  have : part = [] := by simpa using List.filter_eq_nil_iff.mp hn part hp
  rw [this]
  rfl

/-! ## The text of a parent -/

/-- Parts that are idle but for one of them have one step. -/
theorem filterMap_stepOf_around {gap back : List (List Char)} {last : List Char}
    (hg : ∀ x ∈ gap, idle x = true) (hl : ¬ idle last = true) (hb : ∀ x ∈ back, idle x = true) :
    ∃ s, (gap ++ last :: back).filterMap stepOf = [s] := by
  obtain ⟨s, hs, -⟩ := stepOf_of_not_idle hl
  refine ⟨s, ?_⟩
  rw [List.filterMap_append, filterMap_stepOf_of_idle hg, List.nil_append, List.filterMap_cons, hs,
    filterMap_stepOf_of_idle hb]

/-- The parts of a parent stand in front, and the last of them is not idle; behind them comes one
last name, among idle parts. Only a path that is a dot has no such name. -/
theorem cut_of_parent? (h : p.parent? = some q) :
    (∃ front gap last back, p.cut.2 = front ++ (gap ++ last :: back) ∧
      (∀ x ∈ front.getLast?, ¬ idle x = true) ∧
      (∀ x ∈ gap, idle x = true) ∧ ¬ idle last = true ∧ (∀ x ∈ back, idle x = true) ∧
      q.text = leadText p.cut.1 ++ ofParts front) ∨
    (q.text = [] ∧ p.steps = [.here]) := by
  unfold parent? at h
  split at h
  next last rest hf =>
    cases h
    -- in the reversed parts: idle ones, the last part, idle ones again, and what the parent keeps
    refine .inl ⟨(rest.dropWhile idle).reverse, (rest.takeWhile idle).reverse, last,
      (p.cut.2.reverse.takeWhile idle).reverse, ?_, ?_, fun _ => idle_of_mem_takeWhile, ?_,
      fun _ => idle_of_mem_takeWhile, rfl⟩
    · have h1 : p.cut.2.reverse.takeWhile idle ++ last :: rest = p.cut.2.reverse := by
        rw [← hf, List.takeWhile_append_dropWhile]
      have h2 : rest.takeWhile idle ++ rest.dropWhile idle = rest :=
        List.takeWhile_append_dropWhile
      calc p.cut.2
          = (p.cut.2.reverse.takeWhile idle ++
              last :: (rest.takeWhile idle ++ rest.dropWhile idle)).reverse := by
            rw [h2, h1, List.reverse_reverse]
        _ = _ := by
            simp only [List.reverse_append, List.reverse_cons, List.append_assoc,
              List.singleton_append]
    · intro x hx
      rw [List.getLast?_reverse] at hx
      exact not_idle_of_head?_dropWhile hx
    · exact not_idle_of_head?_dropWhile (by rw [hf]; rfl)
  next hf =>
    split at h
    next hh =>
      cases h
      refine .inr ⟨rfl, ?_⟩
      have hall : (p.cut.2.reverse.takeWhile idle).reverse = p.cut.2 := by
        rw [← List.append_nil (p.cut.2.reverse.takeWhile idle), ← hf,
          List.takeWhile_append_dropWhile, List.reverse_reverse]
      have hidle : p.cut.2.filterMap stepOf = [] := by
        rw [← hall]
        exact filterMap_stepOf_of_idle fun _ => idle_of_mem_takeWhile
      rw [steps, hh, hidle]
      rfl
    · cases h

/-- A path whose parent is only what stands in front of it goes on with one step: behind the slash
that is in front, or behind the dot and a slash. -/
theorem text_of_lead {gap back : List (List Char)} {last : List Char}
    (hc : p.cut.2 = gap ++ last :: back) (hg : ∀ x ∈ gap, idle x = true)
    (hl : ¬ idle last = true) (hb : ∀ x ∈ back, idle x = true)
    (ht : q.text = leadText p.cut.1) (hq : q.text ≠ []) :
    ∃ more s, stepsIn more = [s] ∧
      (p.text = q.text ++ '/' :: more ∨ q.text = ['/'] ∧ p.text = '/' :: more) := by
  have hslash : ∀ x ∈ gap ++ last :: back, ∀ c ∈ x, (c == '/') = false := by
    rw [← hc]
    exact forall_ne_slash_cut p
  have hlast : last ≠ [] := by
    rintro rfl
    exact hl rfl
  have hp := text_eq_cut p
  rw [hc] at hp
  rcases cut_cases p with ⟨ps, h⟩ | h | ⟨ps, h⟩ | ⟨h, -⟩
  all_goals rw [h] at hc hp ht
  · obtain ⟨s, hs⟩ := filterMap_stepOf_around hg hl hb
    exact ⟨_, s, (stepsIn_ofParts (by simp) hslash).trans hs, .inr ⟨ht, hp⟩⟩
  · -- a lone dot has no part with a name in it
    cases gap with
    | nil => exact absurd (List.cons.inj hc).1.symm hlast
    | cons x xs => simp at hc
  · -- the empty part before the slash behind the dot is the first of the gap
    cases gap with
    | nil => exact absurd (List.cons.inj hc).1.symm hlast
    | cons x xs =>
      have hx := (List.cons.inj hc).1
      subst hx
      have hslash' : ∀ y ∈ xs ++ last :: back, ∀ c ∈ y, (c == '/') = false :=
        fun y hy => hslash y (List.mem_cons_of_mem [] hy)
      have hxs : ∀ y ∈ xs, idle y = true := fun y hy => hg y (List.mem_cons_of_mem [] hy)
      obtain ⟨s, hs⟩ := filterMap_stepOf_around hxs hl hb
      refine ⟨_, s, (stepsIn_ofParts (by simp) hslash').trans hs, .inl ?_⟩
      rw [hp, ht, List.cons_append, ofParts, Text.join_cons (by simp)]
      rfl
  · exact absurd ht hq

/-- A path goes on behind its parent with a slash and one step. -/
theorem text_of_parent? (h : p.parent? = some q) (hq : q.text ≠ []) :
    ∃ more s, stepsIn more = [s] ∧
      (p.text = q.text ++ '/' :: more ∨ q.text = ['/'] ∧ p.text = '/' :: more) := by
  rcases cut_of_parent? h with ⟨front, gap, last, back, hc, -, hg, hl, hb, ht⟩ | ⟨hnil, -⟩
  · by_cases hf : front = []
    · subst hf
      rw [ofParts, Text.join, List.append_nil] at ht
      exact text_of_lead hc hg hl hb ht hq
    · have hslash : ∀ x ∈ gap ++ last :: back, ∀ c ∈ x, (c == '/') = false := by
        intro x hx
        refine forall_ne_slash_cut p x ?_
        rw [hc]
        exact List.mem_append_right front hx
      obtain ⟨s, hs⟩ := filterMap_stepOf_around hg hl hb
      refine ⟨_, s, (stepsIn_ofParts (by simp) hslash).trans hs, .inl ?_⟩
      rw [text_eq_cut p, hc, ht, ofParts, Text.join_append hf (by simp)]
      simp [ofParts]
  · exact absurd hnil hq

/-- A path is written like its parent, and goes on behind it. -/
theorem text_prefix_of_parent? (h : p.parent? = some q) (hq : q.text ≠ []) :
    ∃ tail, p.text = q.text ++ tail := by
  obtain ⟨more, -, -, hp | ⟨hq', hp⟩⟩ := text_of_parent? h hq
  · exact ⟨_, hp⟩
  · exact ⟨more, by rw [hp, hq']; rfl⟩

/-- The names of a parent come first, and at least one name comes behind them. -/
theorem names_of_parent? (h : p.parent? = some q) (hq : q.text ≠ []) :
    ∃ more, more ≠ [] ∧ p.names = q.names ++ more := by
  obtain ⟨more, s, hs, hp | ⟨hq', hp⟩⟩ := text_of_parent? h hq
  all_goals have hm : names ⟨more⟩ ≠ [] := names_ne_nil (by simp [hs])
  · refine ⟨names ⟨more⟩, hm, ?_⟩
    have := names_append_slash q.text more
    rwa [← hp] at this
  · refine ⟨names ⟨more⟩, hm, ?_⟩
    have hn : q.names = [] := by
      obtain ⟨text⟩ := q
      cases hq'
      rfl
    have := names_slash_cons more
    rw [← hp] at this
    rw [hn]
    exact this

/-- A path has one step more than its parent. -/
theorem steps_of_parent? (h : p.parent? = some q) : ∃ s, p.steps = q.steps ++ [s] := by
  rcases cut_of_parent? h with ⟨front, gap, last, back, hc, hf, hg, hl, hb, ht⟩ | ⟨ht, hs⟩
  · obtain ⟨s, hs⟩ := filterMap_stepOf_around hg hl hb
    have hq : q.steps = p.cut.1.toList ++ front.filterMap stepOf := by
      rw [← steps_of_front hc hf, ← ht]
    refine ⟨s, ?_⟩
    rw [hq, steps, hc, List.filterMap_append, hs, List.append_assoc]
  · obtain ⟨text⟩ := q
    cases ht
    exact ⟨.here, hs⟩

end Remap.Path
