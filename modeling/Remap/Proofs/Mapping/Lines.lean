import Remap.Proofs.Mapping.Printing
import Remap.Proofs.Mapping.Repetition
/-!
# Rules on lines

What a rule looks for stands on one line of its mapping text, and so has no line feed. Literal rules
therefore replace nothing that reaches over the end of a line: they act on each line alone.

Main statements: `Text.replaceAll_append_singleton_append` and `RuleSet.applyAll_lines`.
-/

namespace Remap

theorem Text.not_overlap_singleton {w : List Char} {c : Char} (hw : w ≠ []) (hc : c ∉ w) :
    ¬ Overlap [c] w := by
  -- a word within the character that is not empty is that character
  have hshared : ∀ u : List Char, u ≠ [] → u ⊆ [c] → ¬ u ⊆ w := by
    intro u hne hu huw
    obtain ⟨d, hd⟩ := List.exists_mem_of_ne_nil u hne
    have heq : d = c := List.mem_singleton.mp (hu hd)
    exact hc (heq ▸ huw hd)
  intro h
  cases h with
  | inside h => exact hshared [c] (List.cons_ne_nil c []) (List.Subset.refl _) h.subset
  | around h => exact hshared w hw h.subset (List.Subset.refl _)
  | before hne hu hv => exact hshared _ hne hu.subset hv.subset
  | behind hne hu hv => exact hshared _ hne hv.subset hu.subset

/-- On both sides of a character that it does not have, a word is replaced alone. -/
theorem Text.replaceAll_append_singleton_append {w : List Char} {c : Char} (hc : c ∉ w)
    (t x y : List Char) :
    replaceAll w t (x ++ [c] ++ y) = replaceAll w t x ++ [c] ++ replaceAll w t y := by
  by_cases hw : w = []
  · -- the empty word is replaced nowhere
    subst hw
    have hempty : ∀ cs, replaceAll [] t cs = cs := by
      intro cs
      rw [replaceAll, pieces, dif_pos rfl]
      rfl
    rw [hempty, hempty, hempty]
  · exact replaceAll_append_append (not_overlap_singleton hw hc)

theorem Rule.Written.no_newline_word {r : Rule} {w : List Char} (h : r.Written)
    (hw : r.matcher.word? = some w) : '\n' ∉ w := by
  obtain ⟨matcher, replacement⟩ := r
  cases matcher with
  | literal l =>
    cases hw
    exact h.token.no_newline
  | pattern p => cases hw

/-- Literal rules whose words have no line feed act on both sides of a line feed alone. -/
theorem RuleSet.applyAll_append_newline_append {rules : RuleSet}
    (h : ∀ r ∈ rules, ∃ w, r.matcher.word? = some w ∧ '\n' ∉ w) (x y : List Char) :
    applyAll rules (x ++ ['\n'] ++ y) = applyAll rules x ++ ['\n'] ++ applyAll rules y := by
  induction rules generalizing x y with
  | nil => rfl
  | cons r rules ih =>
    obtain ⟨w, hw, hn⟩ := h r List.mem_cons_self
    have hstep : r.apply (x ++ ['\n'] ++ y) = r.apply x ++ ['\n'] ++ r.apply y := by
      rw [r.apply_of_word? hw, r.apply_of_word? hw, r.apply_of_word? hw]
      exact Text.replaceAll_append_singleton_append hn r.replacement x y
    show applyAll rules (r.apply (x ++ ['\n'] ++ y)) =
      applyAll rules (r.apply x) ++ ['\n'] ++ applyAll rules (r.apply y)
    rw [hstep]
    exact ih (fun s hs => h s (List.mem_cons_of_mem r hs)) (r.apply x) (r.apply y)

/-- The rules of a mapping text, if they are all literal, act on both sides of a line feed alone. -/
theorem RuleSet.applyAll_lines {mapping : List Char} {rules : RuleSet}
    (h : Mapping.parse mapping = .ok rules) (hlit : ∀ r ∈ rules, r.matcher.word?.isSome = true)
    (x y : List Char) :
    applyAll rules (x ++ ['\n'] ++ y) = applyAll rules x ++ ['\n'] ++ applyAll rules y := by
  have hwritten := Mapping.written_of_parse h
  apply applyAll_append_newline_append
  intro r hr
  obtain ⟨w, hw⟩ := Option.isSome_iff_exists.mp (hlit r hr)
  exact ⟨w, hw, (hwritten r hr).no_newline_word hw⟩

/-- One of the tokens looks like a pattern but is refused, and so stands for itself. -/
theorem RuleSet.applyAll_lines_refused :
    ∃ rules, Mapping.parse "/a(/g => ab\naba => \\s".toList = .ok rules ∧
      (∀ r ∈ rules, r.matcher.word?.isSome = true) ∧
      applyAll rules "x/a(/ga".toList = "x ".toList ∧
      applyAll rules "/a(/g\nababa".toList = "ab\n ba".toList ∧
      applyAll rules "x/a(/ga\n/a(/g\nababa".toList = "x \nab\n ba".toList := by
  obtain ⟨rules, h, hlit, hx, hy⟩ :
      ∃ rules, Mapping.parse "/a(/g => ab\naba => \\s".toList = .ok rules ∧
        (∀ r ∈ rules, r.matcher.word?.isSome = true) ∧
        applyAll rules "x/a(/ga".toList = "x ".toList ∧
        applyAll rules "/a(/g\nababa".toList = "ab\n ba".toList :=
    ⟨[⟨.literal "/a(/g".toList, "ab".toList⟩, ⟨.literal "aba".toList, " ".toList⟩], rfl,
      by decide, by cbv, by cbv⟩
  refine ⟨rules, h, hlit, hx, hy, ?_⟩
  have := applyAll_lines h hlit "x/a(/ga".toList "/a(/g\nababa".toList
  rw [hx, hy] at this
  exact this

end Remap
