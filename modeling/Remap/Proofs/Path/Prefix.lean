import Remap.Proofs.Path.Steps
/-!
# Paths from a directory on

What is left of a path that begins with the steps of another has its other steps, and nothing is
left of a path that does not begin so.

Main statements: `steps_of_stripPrefix?` and `not_prefix_of_stripPrefix?`. What is left of the path
of an entry behind its own directory is its name: `stripPrefix?_of_steps_concat`.
-/

namespace Remap.Path

variable {p q base : Path} {ss : List Step} {ps rest : List (List Char)}

/-! ## Parts without idle ones at the end -/

theorem trimParts_append (ps : List (List Char)) :
    ∃ back, ps = trimParts ps ++ back ∧ ∀ x ∈ back, idle x = true := by
  refine ⟨(ps.reverse.takeWhile idle).reverse, ?_, fun _ => idle_of_mem_takeWhile⟩
  rw [trimParts, ← List.reverse_append, List.takeWhile_append_dropWhile, List.reverse_reverse]

theorem filterMap_stepOf_trimParts (ps : List (List Char)) :
    (trimParts ps).filterMap stepOf = ps.filterMap stepOf := by
  obtain ⟨back, hps, hb⟩ := trimParts_append ps
  calc (trimParts ps).filterMap stepOf
      = (trimParts ps ++ back).filterMap stepOf := by
        rw [List.filterMap_append, filterMap_stepOf_of_idle hb, List.append_nil]
    _ = ps.filterMap stepOf := by rw [← hps]

theorem not_idle_getLast_trimParts (ps : List (List Char)) :
    ∀ x ∈ (trimParts ps).getLast?, ¬ idle x = true := by
  intro x hx
  rw [trimParts, List.getLast?_reverse] at hx
  exact not_idle_of_head?_dropWhile hx

/-- The steps of parts that begin with one that is not idle, and are written without those at the
end that are. -/
theorem steps_ofParts_trimParts (hf : ∀ x ∈ ps.head?, ¬ idle x = true)
    (hs : ∀ x ∈ ps, ∀ c ∈ x, (c == '/') = false) :
    steps ⟨ofParts (trimParts ps)⟩ = ps.filterMap stepOf := by
  obtain ⟨back, hps, -⟩ := trimParts_append ps
  rw [← filterMap_stepOf_trimParts]
  cases ht : trimParts ps with
  | nil => rfl
  | cons x xs =>
    rw [ht] at hps
    refine steps_ofParts_cons (hf x (by rw [hps]; rfl)) fun y hy => hs y ?_
    rw [hps]
    exact List.mem_append_left back hy

/-! ## Dropping steps -/

/-- What is left behind steps that were dropped, and begins with a part that is not idle. -/
theorem dropSteps_eq_some (h : dropSteps ss ps = some rest) :
    ps.filterMap stepOf = ss ++ rest.filterMap stepOf ∧ (∀ x ∈ rest.head?, ¬ idle x = true) ∧
      rest ⊆ ps := by
  fun_induction dropSteps ss ps with
  | case1 ps =>
    cases h
    refine ⟨?_, fun _ => not_idle_of_head?_dropWhile, (List.dropWhile_sublist idle).subset⟩
    calc ps.filterMap stepOf
        = (ps.takeWhile idle ++ ps.dropWhile idle).filterMap stepOf := by
          rw [List.takeWhile_append_dropWhile]
      _ = (ps.dropWhile idle).filterMap stepOf := by
          rw [List.filterMap_append, filterMap_stepOf_of_idle, List.nil_append]
          exact fun x => List.all_eq_true.mp List.all_takeWhile x
  | case2 => cases h
  -- an idle part has no step, and another one has the step it is compared with
  | case3 s ss p ps hi ih =>
    obtain ⟨hs, hf, hsub⟩ := ih h
    refine ⟨?_, hf, List.subset_cons_of_subset p hsub⟩
    rw [List.filterMap_cons, stepOf_of_idle hi]
    exact hs
  | case4 s ss p ps hi hp ih =>
    obtain ⟨hs, hf, hsub⟩ := ih h
    refine ⟨?_, hf, List.subset_cons_of_subset p hsub⟩
    rw [List.filterMap_cons, hp]
    exact congrArg (s :: ·) hs
  | case5 => cases h

theorem dropSteps_eq_none (h : dropSteps ss ps = none) : ¬ ss <+: ps.filterMap stepOf := by
  fun_induction dropSteps ss ps with
  | case1 ps => cases h
  | case2 => simp
  | case3 s ss p ps hi ih =>
    rw [List.filterMap_cons, stepOf_of_idle hi]
    exact ih h
  | case4 s ss p ps hi hp ih =>
    rw [List.filterMap_cons, hp]
    exact fun hpre => ih h (List.cons_prefix_cons.mp hpre).2
  | case5 s ss p ps hi hp =>
    obtain ⟨r, hr, -⟩ := stepOf_of_not_idle hi
    rw [List.filterMap_cons, hr]
    rintro hpre
    exact hp (hr.trans (congrArg some (List.cons_prefix_cons.mp hpre).1.symm))

/-! ## Paths -/

/-- What is left of a path that begins with the steps of `base`, if this has any: parts that begin
with one that is not idle. -/
theorem exists_rest_of_stripPrefix? (hne : base.steps ≠ []) (h : p.stripPrefix? base = some q) :
    ∃ rest, q = ⟨ofParts (trimParts rest)⟩ ∧ (∀ x ∈ rest.head?, ¬ idle x = true) ∧
      rest ⊆ p.cut.2 ∧ p.steps = base.steps ++ rest.filterMap stepOf := by
  unfold stripPrefix? at h
  -- the step in front belongs to the base if it has one, and is no part of the rest
  split at h
  next hb hc => exact absurd hb hne
  next s ss lead ps hb hc =>
    split at h
    next hs =>
      obtain ⟨rest, hd, rfl⟩ := Option.map_eq_some_iff.mp h
      obtain ⟨hsteps, hf, hsub⟩ := dropSteps_eq_some hd
      refine ⟨rest, rfl, hf, by rw [hc]; exact hsub, ?_⟩
      rw [hb, steps, hc, hs, hsteps]
      rfl
    next => cases h
  next ps hc _ =>
    obtain ⟨rest, hd, rfl⟩ := Option.map_eq_some_iff.mp h
    obtain ⟨hsteps, hf, hsub⟩ := dropSteps_eq_some hd
    refine ⟨rest, rfl, hf, by rw [hc]; exact hsub, ?_⟩
    rw [steps, hc, hsteps]
    rfl

/-- What is left of a path that begins with the steps of `base` has the other steps. -/
theorem steps_of_stripPrefix? (h : p.stripPrefix? base = some q) :
    p.steps = base.steps ++ q.steps := by
  by_cases hne : base.steps = []
  · unfold stripPrefix? at h
    rw [hne] at h ⊢
    cases h
    obtain ⟨back, hps, -⟩ := trimParts_append p.cut.2
    have hq := steps_of_front hps (not_idle_getLast_trimParts p.cut.2)
    rw [filterMap_stepOf_trimParts] at hq
    exact hq.symm
  · obtain ⟨rest, rfl, hf, hsub, hsteps⟩ := exists_rest_of_stripPrefix? hne h
    rw [steps_ofParts_trimParts hf fun x hx => forall_ne_slash_cut p x (hsub hx)]
    exact hsteps

/-- Nothing is left only of a path that does not begin with the steps of `base`. -/
theorem not_prefix_of_stripPrefix? (h : p.stripPrefix? base = none) :
    ¬ base.steps <+: p.steps := by
  unfold stripPrefix? at h
  split at h
  next => cases h
  next s ss lead ps hb hc =>
    rw [hb, steps, hc]
    split at h
    next hs =>
      exact fun hpre => dropSteps_eq_none (Option.map_eq_none_iff.mp h)
        (List.cons_prefix_cons.mp hpre).2
    next hs => exact fun hpre => hs (List.cons_prefix_cons.mp hpre).1
  next ps hc hne =>
    have hp : p.steps = ps.filterMap stepOf := by
      rw [steps, hc]
      rfl
    rw [hp]
    exact dropSteps_eq_none (Option.map_eq_none_iff.mp h)

/-- What is left of a path that has one name more than `base` is the name, as it is written. -/
theorem stripPrefix?_of_steps_concat {name : List Char} (hne : base.steps ≠ [])
    (h : p.steps = base.steps ++ [.name name]) : p.stripPrefix? base = some ⟨name⟩ := by
  cases hq : p.stripPrefix? base with
  | none => exact absurd ⟨_, h.symm⟩ (not_prefix_of_stripPrefix? hq)
  | some q =>
    obtain ⟨rest, rfl, hf, -, hsteps⟩ := exists_rest_of_stripPrefix? hne hq
    have hrest : rest.filterMap stepOf = [.name name] :=
      List.append_cancel_left (hsteps.symm.trans h)
    cases rest with
    | nil => cases hrest
    | cons x back =>
      -- the first part is the name, so that all parts behind it are idle
      obtain ⟨s, hs, hx⟩ := stepOf_of_not_idle (hf x rfl)
      rw [List.filterMap_cons, hs] at hrest
      obtain ⟨rfl, hback⟩ := List.cons.inj hrest
      obtain rfl : name = x := Option.some.inj hx
      have hidle : ∀ y ∈ back.reverse, idle y = true := by
        intro y hy
        have hnone := List.filterMap_eq_nil_iff.mp hback y (List.mem_reverse.mp hy)
        cases hi : idle y with
        | true => rfl
        | false =>
          obtain ⟨r, hr, -⟩ := stepOf_of_not_idle (Bool.eq_false_iff.mp hi)
          cases hr.symm.trans hnone
      have htrim : trimParts (name :: back) = [name] := by
        rw [trimParts, List.reverse_cons, List.dropWhile_append_of_pos hidle,
          List.dropWhile_cons_of_neg (hf name rfl)]
        rfl
      rw [htrim]
      rfl

end Remap.Path
