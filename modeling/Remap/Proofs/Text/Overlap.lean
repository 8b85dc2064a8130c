import Mathlib.Data.List.Infix
import Remap.Proofs.Text.Replacing
/-!
# Words that do not overlap

Two words overlap if one contains the other, or if an end of one begins the other. A word that does
not overlap what stands between two texts is found in these texts only, so that replacing it works
on each of them alone.

Main statements: `infix_append_append`, `replaceAll_append_append` and `firstAt_replaceAll`.
-/

namespace Remap.Text

/-- One of two words contains the other, or an end of one, which is not empty, begins the other. -/
inductive Overlap (v w : List Char) : Prop
  | inside : v <:+: w → Overlap v w
  | around : w <:+: v → Overlap v w
  | before {u : List Char} : u ≠ [] → u <:+ v → u <+: w → Overlap v w
  | behind {u : List Char} : u ≠ [] → u <:+ w → u <+: v → Overlap v w

namespace Overlap

variable {v w : List Char}

/-- The empty word overlaps every word. -/
theorem ne_nil (h : ¬ Overlap v w) : v ≠ [] ∧ w ≠ [] := by
  constructor
  · rintro rfl
    exact h (.inside List.nil_infix)
  · rintro rfl
    exact h (.around List.nil_infix)

/-- Ends and beginnings are finitely many, so that overlapping can be decided. -/
theorem iff_tails (v w : List Char) :
    Overlap v w ↔ v <:+: w ∨ w <:+: v ∨ (∃ u ∈ v.tails, u ≠ [] ∧ u <+: w) ∨
      ∃ u ∈ w.tails, u ≠ [] ∧ u <+: v := by
  constructor
  · intro h
    cases h with
    | inside h => exact .inl h
    | around h => exact .inr (.inl h)
    | before hne hv hw => exact .inr (.inr (.inl ⟨_, (List.mem_tails _ _).mpr hv, hne, hw⟩))
    | behind hne hw hv => exact .inr (.inr (.inr ⟨_, (List.mem_tails _ _).mpr hw, hne, hv⟩))
  · rintro (h | h | ⟨u, hu, hne, hw⟩ | ⟨u, hu, hne, hv⟩)
    · exact .inside h
    · exact .around h
    · exact .before hne ((List.mem_tails _ _).mp hu) hw
    · exact .behind hne ((List.mem_tails _ _).mp hu) hv

instance (v w : List Char) : Decidable (Overlap v w) := decidable_of_iff' _ (iff_tails v w)

end Overlap

/-! ## Around what a word does not overlap -/

variable {s t v w x y : List Char}

/-- A word that does not overlap `s` occurs around `s` on one side of it. -/
theorem infix_append_append (hs : ¬ Overlap s w) (h : w <:+: x ++ s ++ y) :
    w <:+: x ∨ w <:+: y := by
  obtain ⟨p, q, he⟩ := h
  rw [List.append_assoc, List.append_assoc] at he
  rcases List.append_eq_append_iff.mp he with ⟨x', rfl, hrest⟩ | ⟨p', rfl, hrest⟩
  · -- the word begins in `x`
    left
    rcases List.append_eq_append_iff.mp hrest with ⟨r, rfl, -⟩ | ⟨w', rfl, hsy⟩
    · exact ⟨p, r, List.append_assoc p w r⟩
    · have hend : w' <:+ x' ++ w' := List.suffix_append x' w'
      by_cases hne : w' = []
      · subst hne
        rw [List.append_nil]
        exact (List.suffix_append p x').isInfix
      · -- what is left of the word begins `s`, or `s` lies in it
        rcases List.append_eq_append_iff.mp hsy with ⟨r, rfl, -⟩ | ⟨r, rfl, -⟩
        · exact absurd (.inside ((List.prefix_append s r).isInfix.trans hend.isInfix)) hs
        · exact absurd (.behind hne hend (List.prefix_append w' r)) hs
  · -- the word begins in `s` or behind it
    rcases List.append_eq_append_iff.mp hrest with ⟨r, rfl, hy⟩ | ⟨s', rfl, hwq⟩
    · right
      exact ⟨r, q, by rw [List.append_assoc, hy]⟩
    · have hend : s' <:+ p' ++ s' := List.suffix_append p' s'
      rcases List.append_eq_append_iff.mp hwq with ⟨r, rfl, -⟩ | ⟨r, rfl, hy⟩
      · exact absurd (.around ((List.prefix_append w r).isInfix.trans hend.isInfix)) hs
      · by_cases hne : s' = []
        · subst hne
          right
          exact ⟨[], q, hy.symm⟩
        · exact absurd (.before hne hend (List.prefix_append s' r)) hs

/-- A word that does not overlap `s` is replaced on both sides of `s` alone. -/
theorem replaceAll_append_append (hs : ¬ Overlap s w) :
    replaceAll w t (x ++ s ++ y) = replaceAll w t x ++ s ++ replaceAll w t y := by
  have hw := (Overlap.ne_nil hs).2
  induction x using occurrence_ind hw with
  | absent x hx =>
    -- the first occurrence, if there is one, is the first one behind `s`
    rw [replaceAll_of_absent hx]
    cases hcut : cutFirst w y with
    | none =>
      have hy : ¬ w <:+: y := (cutFirst_eq_none_iff hw).mp hcut
      have hxy : ¬ w <:+: x ++ s ++ y := fun h => (infix_append_append hs h).elim hx hy
      rw [replaceAll_of_absent hy, replaceAll_of_absent hxy]
    | some parts =>
      obtain ⟨b, a⟩ := parts
      have hfirst := firstAt_of_cutFirst hcut
      obtain rfl := hfirst.eq
      have hb : ¬ w <:+: b ++ w.dropLast := (firstAt_iff_absent hw).mp hfirst
      have hsb : FirstAt w (x ++ s ++ b ++ w ++ a) (x ++ s ++ b) a := by
        rw [firstAt_iff_absent hw, List.append_assoc]
        exact fun h => (infix_append_append hs h).elim hx hb
      rw [replaceAll_of_firstAt hw hfirst]
      simp only [← List.append_assoc] at hsb ⊢
      rw [replaceAll_of_firstAt hw hsb]
  | found x b a hfirst ih =>
    obtain rfl := hfirst.eq
    have hlonger : FirstAt w (b ++ w ++ (a ++ s ++ y)) b (a ++ s ++ y) := by
      rw [firstAt_iff_absent hw] at hfirst ⊢
      exact hfirst
    rw [replaceAll_of_firstAt hw hfirst]
    simp only [List.append_assoc] at hlonger ih ⊢
    rw [replaceAll_of_firstAt hw hlonger, ih, List.append_assoc]

/-! ## What replacing brings in -/

/-- Replacing by a text that a word does not overlap brings in no occurrence of that word, and none
that ends in what follows. -/
theorem infix_of_replaceAll_append (ht : ¬ Overlap t w) (hv : v ≠ [])
    (h : w <:+: replaceAll v t x ++ y) : w <:+: x ++ y := by
  induction x using occurrence_ind hv with
  | absent x hx =>
    rw [replaceAll_of_absent hx] at h
    exact h
  | found x b a hfirst ih =>
    rw [replaceAll_of_firstAt hv hfirst, List.append_assoc] at h
    obtain rfl := hfirst.eq
    rcases infix_append_append ht h with hb | ha
    · have hpre : b <+: b ++ v ++ a ++ y := by
        simp only [List.append_assoc]
        exact List.prefix_append b _
      exact hb.trans hpre.isInfix
    · rw [List.append_assoc]
      exact (ih ha).trans (List.suffix_append (b ++ v) (a ++ y)).isInfix

theorem not_infix_replaceAll (ht : ¬ Overlap t w) (hv : v ≠ []) (h : ¬ w <:+: x) :
    ¬ w <:+: replaceAll v t x := by
  intro hw
  rw [← List.append_nil (replaceAll v t x)] at hw
  have := infix_of_replaceAll_append ht hv hw
  rw [List.append_nil] at this
  exact h this

/-- The first occurrence of a word stays the first when another word is replaced before it. -/
theorem firstAt_replaceAll (ht : ¬ Overlap t w) (hv : v ≠ []) {z : List Char}
    (h : FirstAt w (x ++ w ++ y) x y) :
    FirstAt w (replaceAll v t x ++ w ++ z) (replaceAll v t x) z := by
  have hw := (Overlap.ne_nil ht).2
  rw [firstAt_iff_absent hw] at h ⊢
  exact fun hin => h (infix_of_replaceAll_append ht hv hin)

end Remap.Text
