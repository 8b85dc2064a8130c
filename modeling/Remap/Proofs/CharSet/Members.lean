import Remap.CharSet.Basic
/-!
# Members of sets of characters

Ranges that were brought into form stand in increasing order, so that looking for a code point may
stop at the first range that begins behind it.

Main statements: `contains_union` and `contains_unions`.
-/

namespace Remap

namespace CodeRange

variable {r : CodeRange} {rs : List CodeRange} {n : Nat}

/-- Ranges in the order of their lower ends. -/
abbrev Increasing (rs : List CodeRange) : Prop := rs.Pairwise fun a b => a.lo ≤ b.lo

theorem increasing_attach (hr : r.lo ≤ r.hi) (h : ∀ s ∈ rs, r.lo ≤ s.lo ∧ s.lo ≤ s.hi)
    (hp : Increasing rs) : Increasing (attach r rs) := by
  induction rs generalizing r with
  | nil => exact List.pairwise_singleton _ r
  | cons s rs ih =>
    have hs := h s List.mem_cons_self
    rw [attach]
    split
    · have hmax : r.lo ≤ max r.hi s.hi := Nat.le_trans hr (Nat.le_max_left _ _)
      exact ih hmax (fun t ht => h t (List.mem_cons_of_mem s ht)) (List.pairwise_cons.mp hp).2
    · exact List.pairwise_cons.mpr ⟨fun t ht => (h t ht).1, hp⟩

theorem increasing_coalesce (hp : Increasing rs) (hv : ∀ r ∈ rs, r.lo ≤ r.hi) :
    Increasing (coalesce rs) := by
  induction rs with
  | nil => exact .nil
  | cons r rs ih =>
    obtain ⟨hr, hp⟩ := List.pairwise_cons.mp hp
    have hvs : ∀ s ∈ rs, s.lo ≤ s.hi := fun s hs => hv s (List.mem_cons_of_mem r hs)
    rw [coalesce]
    exact increasing_attach (hv r List.mem_cons_self) ((coalesce_spec hp hvs).2 r.lo hr)
      (ih hp hvs)

theorem increasing_normalise (rs : List CodeRange) : Increasing (normalise rs) := by
  apply increasing_coalesce
  · have hp := @List.pairwise_mergeSort CodeRange (fun a b => decide (a.lo ≤ b.lo))
      (fun a b c h₁ h₂ => by simp only [decide_eq_true_eq] at *; omega)
      (fun a b => by simp only [Bool.or_eq_true, decide_eq_true_eq]; omega)
      (rs.filter fun r => decide (r.lo ≤ r.hi))
    simpa using hp
  · intro r hr
    rw [List.mem_mergeSort] at hr
    simpa using (List.mem_filter.mp hr).2

end CodeRange

namespace CharSet

open CodeRange

variable {rs : List CodeRange} {n : Nat} {c : Char}

/-- In increasing ranges none that follows one behind a code point holds it. -/
theorem hasCode_eq_anyHas (h : Increasing rs) (n : Nat) : hasCode rs n = anyHas rs n := by
  induction rs with
  | nil => rfl
  | cons r rs ih =>
    obtain ⟨hr, h⟩ := List.pairwise_cons.mp h
    rw [hasCode, ih h, show anyHas (r :: rs) n = (r.has n || anyHas rs n) from rfl, CodeRange.has]
    split
    next hlt =>
      -- the search stops here, since all later ranges begin further on
      have hnone : anyHas rs n = false := by
        rw [anyHas, List.any_eq_false]
        intro s hs
        have := hr s hs
        simp only [CodeRange.has, Bool.and_eq_true, decide_eq_true_eq]
        omega
      rw [hnone, decide_eq_false (by omega)]
      rfl
    next hle =>
      rw [decide_eq_true (by omega : r.lo ≤ n)]
      rfl

theorem anyHas_union (s t : CharSet) (n : Nat) :
    anyHas (s.union t).ranges n = (anyHas s.ranges n || anyHas t.ranges n) := by
  rw [union, ofRanges, mem_normalise]
  exact List.any_append

theorem anyHas_unions (ss : List CharSet) (n : Nat) :
    anyHas (unions ss).ranges n = ss.any fun s => anyHas s.ranges n := by
  rw [unions, ofRanges, mem_normalise]
  exact List.any_flatMap

theorem contains_union (s t : CharSet) (c : Char) :
    (s.union t).contains c = (anyHas s.ranges c.toNat || anyHas t.ranges c.toNat) := by
  rw [← anyHas_union]
  exact hasCode_eq_anyHas (increasing_normalise _) _

theorem contains_unions (ss : List CharSet) (c : Char) :
    (unions ss).contains c = ss.any fun s => anyHas s.ranges c.toNat := by
  rw [← anyHas_unions]
  exact hasCode_eq_anyHas (increasing_normalise _) _

end CharSet
end Remap
