import Mathlib.Data.Finset.Prod
import Remap.Proofs.Regex.Iteration
/-!
# How long a run can take

No instruction is tried twice at the same place of the text, so a run takes fewer steps than there
are instructions and places. More fuel than that changes nothing.

Main statements: `explore_eq_of_card_lt` and `explore_eq_of_fuel_le`.
-/

namespace Remap.Regex

variable {p : Program} {text : Array Char}

/-! ## What has been tried -/

/-- The instructions, with places of the text, that have not been tried. -/
def untried (p : Program) (text : Array Char) (tried : Tried) : Finset (Nat × Nat) :=
  {x ∈ Finset.range p.size ×ˢ Finset.range (text.size + 1) | x ∉ tried}

theorem mem_untried_iff {tried : Tried} {x : Nat × Nat} :
    x ∈ untried p text tried ↔ (x.1 < p.size ∧ x.2 < text.size + 1) ∧ x ∉ tried := by
  rw [untried, Finset.mem_filter, Finset.mem_product, Finset.mem_range, Finset.mem_range]

theorem card_untried_le (p : Program) (text : Array Char) (tried : Tried) :
    (untried p text tried).card ≤ p.size * (text.size + 1) := by
  have h := Finset.card_filter_le (Finset.range p.size ×ˢ Finset.range (text.size + 1))
    (· ∉ tried)
  rwa [Finset.card_product, Finset.card_range, Finset.card_range] at h

theorem card_untried_mono {tried tried' : Tried} (h : ∀ x ∈ tried, x ∈ tried') :
    (untried p text tried').card ≤ (untried p text tried).card := by
  refine Finset.card_le_card fun x hx => ?_
  rw [mem_untried_iff] at hx ⊢
  exact ⟨hx.1, mt (h x) hx.2⟩

theorem mem_insert_of_mem {tried : Tried} {x y : Nat × Nat} (h : x ∈ tried) :
    x ∈ tried.insert y := Std.HashSet.mem_insert.mpr (.inr h)

theorem card_untried_insert {tried : Tried} {x : Nat × Nat} (h : x ∈ untried p text tried) :
    (untried p text (tried.insert x)).card < (untried p text tried).card := by
  refine Finset.card_lt_card (Finset.ssubset_iff_subset_ne.mpr ⟨fun y hy => ?_, fun he => ?_⟩)
  · rw [mem_untried_iff] at hy ⊢
    exact ⟨hy.1, mt mem_insert_of_mem hy.2⟩
  · rw [← he, mem_untried_iff] at h
    exact h.2 Std.HashSet.mem_insert_self

/-- A run forgets nothing that has been tried. -/
theorem mem_explore {fuel pc pos : Nat} {marks : Marks} {tried : Tried} {x : Nat × Nat}
    (h : x ∈ tried) : x ∈ (explore p text fuel pc pos marks tried).2 := by
  fun_induction explore p text fuel pc pos marks tried with
  | case1 | case2 => exact h
  | case3 | case4 | case6 | case8 | case10 => exact mem_insert_of_mem h
  | case5 _ _ _ _ _ _ _ _ _ _ _ ih => exact ih (mem_insert_of_mem h)
  | case7 _ _ _ _ _ _ _ _ _ _ _ ih => exact ih (mem_insert_of_mem h)
  | case9 _ _ _ _ _ _ _ _ _ _ _ ih => exact ih (mem_insert_of_mem h)
  | case11 _ _ _ _ _ _ _ _ _ _ ih => exact ih (mem_insert_of_mem h)
  | case12 _ _ _ _ _ _ _ _ _ _ _ _ he ih =>
    rw [he] at ih
    exact ih (mem_insert_of_mem h)
  | case13 _ _ _ _ _ _ _ _ _ _ _ he ih1 ih2 =>
    rw [he] at ih1
    exact ih2 (ih1 (mem_insert_of_mem h))

/-! ## Enough fuel -/

/-- Fuel for more steps than there is left to try is as good as any more. -/
theorem explore_eq_of_card_lt {j k pc pos : Nat} (marks : Marks) {tried : Tried}
    (hpos : pos ≤ text.size) (hj : (untried p text tried).card < j)
    (hk : (untried p text tried).card < k) :
    explore p text j pc pos marks tried = explore p text k pc pos marks tried := by
  -- each step tries something new, so that one unit of fuel less is still enough for the rest
  induction j generalizing k pc pos marks tried with
  | zero => cases hj
  | succ j ih =>
    obtain ⟨k, rfl⟩ : ∃ i, k = i + 1 := ⟨k - 1, by omega⟩
    rw [explore, explore]
    by_cases hnew : tried.contains (pc, pos) = true
    · rw [if_pos hnew, if_pos hnew]
    rw [if_neg hnew, if_neg hnew]
    cases hpc : p[pc]? with
    | none => rfl
    | some i =>
      have hmem : (pc, pos) ∈ untried p text tried :=
        mem_untried_iff.mpr ⟨⟨(Array.getElem?_eq_some_iff.mp hpc).1, Nat.lt_succ_of_le hpos⟩, hnew⟩
      have hless := card_untried_insert hmem
      have hrest {pc' pos' : Nat} (marks' : Marks) {tried' : Tried} (hpos' : pos' ≤ text.size)
          (hle : (untried p text tried').card ≤ (untried p text (tried.insert (pc, pos))).card) :
          explore p text j pc' pos' marks' tried' = explore p text k pc' pos' marks' tried' :=
        ih marks' hpos' (by omega) (by omega)
      cases i with
      | accept => rfl
      | char c next =>
        dsimp only
        split
        next hc => exact hrest marks (Array.getElem?_eq_some_iff.mp hc).1 (Nat.le_refl _)
        next => rfl
      | set s next =>
        dsimp only
        split
        next hs => exact hrest marks (lt_size_of_any hs) (Nat.le_refl _)
        next => rfl
      | look l next =>
        dsimp only
        split
        · exact hrest marks hpos (Nat.le_refl _)
        · rfl
      | mark slot next => exact hrest _ hpos (Nat.le_refl _)
      | split first second =>
        dsimp only
        rw [hrest marks hpos (Nat.le_refl _)]
        split
        next => rfl
        next tried' he =>
          -- what the preferred branch tried is not left for the other one
          refine hrest marks hpos (card_untried_mono fun x hx => ?_)
          have hkept : x ∈ (explore p text k first pos marks (tried.insert (pc, pos))).2 :=
            mem_explore hx
          rw [he] at hkept
          exact hkept

/-- The fuel of an automaton is as good as any more. -/
theorem explore_eq_of_fuel_le (a : Automaton) {k pc pos : Nat} (marks : Marks) (tried : Tried)
    (hpos : pos ≤ text.size) (hk : a.fuel text ≤ k) :
    explore a.program text (a.fuel text) pc pos marks tried =
      explore a.program text k pc pos marks tried := by
  have hcard := Nat.lt_succ_of_le (card_untried_le a.program text tried)
  exact explore_eq_of_card_lt marks hpos hcard (Nat.lt_of_lt_of_le hcard hk)

end Remap.Regex
