import Remap.Proofs.Text.First
/-!
# Replacing from occurrence to occurrence

A text either does not have a word, or it is cut at the first occurrence of the word and goes on
behind it. `Text.replaceAll` follows this, and so do the proofs about it.

Main statements: `replaceAll_of_absent`, `replaceAll_of_firstAt` and `occurrence_ind`.
-/

namespace Remap.Text

variable {w t cs b a : List Char}

/-- A text without the word stays as it is. -/
theorem replaceAll_of_absent (h : ¬ w <:+: cs) : replaceAll w t cs = cs := by
  have hw : w ≠ [] := by
    rintro rfl
    exact h (List.nil_infix)
  rw [replaceAll, pieces_of_cutFirst_none hw ((cutFirst_eq_none_iff hw).mpr h)]
  rfl

/-- The first occurrence is replaced, and replacing goes on behind it. -/
theorem replaceAll_of_firstAt (hw : w ≠ []) (h : FirstAt w cs b a) :
    replaceAll w t cs = b ++ t ++ replaceAll w t a := by
  rw [replaceAll, pieces_of_cutFirst hw (cutFirst_eq_some_iff.mpr h),
    join_cons (pieces_ne_nil w a)]
  rfl

/-- What holds of texts without the word, and of a text whenever it holds of what stands behind the
first occurrence, holds of all texts. -/
theorem occurrence_ind (hw : w ≠ []) {P : List Char → Prop}
    (absent : ∀ cs, ¬ w <:+: cs → P cs)
    (found : ∀ cs b a, FirstAt w cs b a → P a → P cs) : ∀ cs, P cs := by
  intro cs
  induction hn : cs.length using Nat.strongRecOn generalizing cs with
  | ind n ih =>
    cases hcut : cutFirst w cs with
    | none => exact absent cs ((cutFirst_eq_none_iff hw).mp hcut)
    | some x =>
      have hlt : x.2.length < n := hn ▸ length_after_lt hw hcut
      exact found cs x.1 x.2 (firstAt_of_cutFirst hcut) (ih _ hlt x.2 rfl)

end Remap.Text
