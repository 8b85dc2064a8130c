import Remap.Mapping.Rule
import Remap.Proofs.Text.Overlap
/-!
# Independent rules

The order of two literal rules does not matter if neither looks for anything that overlaps what the
other one looks for or puts in its place.

Main statement: `applyAll_swap`.
-/

namespace Remap

variable {v w s t : List Char}

/-- Replacing one word and then another comes to the same in either order, if neither of them
overlaps the other or what takes the other's place. -/
theorem Text.replaceAll_swap (hvw : ¬ Overlap v w) (hsw : ¬ Overlap s w) (htv : ¬ Overlap t v)
    (text : List Char) :
    replaceAll w t (replaceAll v s text) = replaceAll v s (replaceAll w t text) := by
  obtain ⟨hv, hw⟩ := Overlap.ne_nil hvw
  -- the first word cuts the text; the second one is replaced between the cuts on either side
  induction text using occurrence_ind hv with
  | absent text h =>
    have hrest : ¬ v <:+: replaceAll w t text := not_infix_replaceAll htv hw h
    rw [replaceAll_of_absent h, replaceAll_of_absent hrest]
  | found text b a hfirst ih =>
    have hsecond : FirstAt v (replaceAll w t b ++ v ++ replaceAll w t a) (replaceAll w t b)
        (replaceAll w t a) := by
      obtain rfl := hfirst.eq
      exact firstAt_replaceAll htv hw hfirst
    calc replaceAll w t (replaceAll v s text)
        = replaceAll w t (b ++ s ++ replaceAll v s a) := by rw [replaceAll_of_firstAt hv hfirst]
      _ = replaceAll w t b ++ s ++ replaceAll w t (replaceAll v s a) :=
          replaceAll_append_append hsw
      _ = replaceAll w t b ++ s ++ replaceAll v s (replaceAll w t a) := by rw [ih]
      _ = replaceAll v s (replaceAll w t b ++ v ++ replaceAll w t a) :=
          (replaceAll_of_firstAt hv hsecond).symm
      _ = replaceAll v s (replaceAll w t (b ++ v ++ a)) := by rw [replaceAll_append_append hvw]
      _ = replaceAll v s (replaceAll w t text) := by rw [← hfirst.eq]

/-- Two literal rules next to each other can change places, if what they look for does not overlap
and neither of them puts in what overlaps what the other one looks for. -/
theorem RuleSet.applyAll_swap (hvw : ¬ Text.Overlap v w) (hsw : ¬ Text.Overlap s w)
    (htv : ¬ Text.Overlap t v) (before after : RuleSet) (text : List Char) :
    applyAll (before ++ ⟨.literal v, s⟩ :: ⟨.literal w, t⟩ :: after) text =
      applyAll (before ++ ⟨.literal w, t⟩ :: ⟨.literal v, s⟩ :: after) text := by
  rw [applyAll_append, applyAll_append]
  show applyAll after (Text.replaceAll w t (Text.replaceAll v s (applyAll before text))) =
    applyAll after (Text.replaceAll v s (Text.replaceAll w t (applyAll before text)))
  rw [Text.replaceAll_swap hvw hsw htv]

theorem RuleSet.applyAll_swap_overlapping_itself :
    ¬ Text.Overlap "aba".toList "cc".toList ∧ ¬ Text.Overlap "xay".toList "cc".toList ∧
      ¬ Text.Overlap "caac".toList "aba".toList ∧
      applyAll [⟨.literal "cc".toList, "caac".toList⟩, ⟨.literal "aba".toList, "xay".toList⟩]
        "ababa ccc aba".toList = "xayba caacc xay".toList := by
  have hvw : ¬ Text.Overlap "aba".toList "cc".toList := by decide
  have hsw : ¬ Text.Overlap "xay".toList "cc".toList := by decide
  have htv : ¬ Text.Overlap "caac".toList "aba".toList := by decide
  refine ⟨hvw, hsw, htv, ?_⟩
  have hswap := applyAll_swap hvw hsw htv [] [] "ababa ccc aba".toList
  rw [List.nil_append, List.nil_append] at hswap
  rw [← hswap]
  cbv

end Remap
