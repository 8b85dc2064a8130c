import Remap.Mapping.Rule
import Remap.Proofs.Text.Overlap
/-!
# Applying rules again

Rules are clean if they are literal and what they put in overlaps nothing that they look for. Each
of them leaves no occurrence of its own word, and none of them brings back a word that another one
has removed, so that all the words are gone in the end and a second run finds nothing to replace.

Main statement: `applyAll_applyAll`.
-/

namespace Remap

open Text (replaceAll Overlap)

/-! ## Words -/

/-- Replacing a word by a text that does not overlap it leaves no occurrence of the word. -/
theorem Text.not_infix_replaceAll_self {w t : List Char} (h : ¬ Overlap t w) (cs : List Char) :
    ¬ w <:+: replaceAll w t cs := by
  have hw := (Overlap.ne_nil h).2
  induction cs using occurrence_ind hw with
  | absent cs hcs =>
    rw [replaceAll_of_absent hcs]
    exact hcs
  | found cs b a hfirst ih =>
    intro hin
    rw [replaceAll_of_firstAt hw hfirst] at hin
    -- the word is not in what was put in, nor before it, nor behind it
    rcases infix_append_append h hin with hb | ha
    · obtain rfl := hfirst.eq
      have habsent := (firstAt_iff_absent hw).mp hfirst
      exact habsent (hb.trans (List.prefix_append b w.dropLast).isInfix)
    · exact ih ha

/-- The text that a matcher looks for, if it is a literal one. -/
def Matcher.word? : Matcher → Option (List Char)
  | literal w => some w
  | pattern _ => none

theorem Rule.apply_of_word? {r : Rule} {w : List Char} (h : r.matcher.word? = some w)
    (text : List Char) : r.apply text = replaceAll w r.replacement text := by
  obtain ⟨matcher, replacement⟩ := r
  cases matcher with
  | literal l =>
    cases h
    rfl
  | pattern p => cases h

namespace RuleSet

variable {rules : RuleSet} {w : List Char}

/-- The texts that the literal rules look for. -/
def words (rules : RuleSet) : List (List Char) := rules.filterMap fun r => r.matcher.word?

theorem mem_words : w ∈ words rules ↔ ∃ r ∈ rules, r.matcher.word? = some w := List.mem_filterMap

/-- All rules are literal, and what they put in overlaps nothing that any of them looks for. So none
of these texts is empty, since the empty text overlaps every other one. -/
structure Clean (rules : RuleSet) : Prop where
  literal : ∀ r ∈ rules, r.matcher.word?.isSome = true
  apart : ∀ r ∈ rules, ∀ w ∈ words rules, ¬ Overlap r.replacement w

/-! ## Runs -/

/-- Rules do not bring in a word that their replacements do not overlap. -/
theorem not_infix_applyAll (hlit : ∀ r ∈ rules, ∃ v, r.matcher.word? = some v ∧ v ≠ [])
    (hw : ∀ r ∈ rules, ¬ Overlap r.replacement w) {text : List Char} (h : ¬ w <:+: text) :
    ¬ w <:+: applyAll rules text := by
  induction rules generalizing text with
  | nil => exact h
  | cons r rules ih =>
    obtain ⟨v, hv, hne⟩ := hlit r List.mem_cons_self
    have hstep : ¬ w <:+: r.apply text := by
      rw [r.apply_of_word? hv]
      exact Text.not_infix_replaceAll (hw r List.mem_cons_self) hne h
    apply ih
    · exact fun s hs => hlit s (List.mem_cons_of_mem r hs)
    · exact fun s hs => hw s (List.mem_cons_of_mem r hs)
    · exact hstep

/-- Literal rules leave a text as it is that has none of their words. -/
theorem applyAll_of_absent (hlit : ∀ r ∈ rules, r.matcher.word?.isSome = true) {text : List Char}
    (h : ∀ w ∈ words rules, ¬ w <:+: text) : applyAll rules text = text := by
  induction rules with
  | nil => rfl
  | cons r rules ih =>
    obtain ⟨w, hw⟩ := Option.isSome_iff_exists.mp (hlit r List.mem_cons_self)
    have hr : r.apply text = text := by
      rw [r.apply_of_word? hw]
      exact Text.replaceAll_of_absent (h w (mem_words.mpr ⟨r, List.mem_cons_self, hw⟩))
    show applyAll rules (r.apply text) = text
    rw [hr]
    apply ih
    · exact fun s hs => hlit s (List.mem_cons_of_mem r hs)
    · intro v hv
      obtain ⟨s, hs, hsv⟩ := mem_words.mp hv
      exact h v (mem_words.mpr ⟨s, List.mem_cons_of_mem r hs, hsv⟩)

namespace Clean

/-- Every rule looks for a word that is not empty. -/
theorem word_ne_nil (h : Clean rules) : ∀ r ∈ rules, ∃ v, r.matcher.word? = some v ∧ v ≠ [] := by
  intro r hr
  obtain ⟨v, hv⟩ := Option.isSome_iff_exists.mp (h.literal r hr)
  exact ⟨v, hv, (Overlap.ne_nil (h.apart r hr v (mem_words.mpr ⟨r, hr, hv⟩))).2⟩

/-- Clean rules leave no occurrence of what any of them looks for. -/
theorem absent (h : Clean rules) (text : List Char) :
    ∀ w ∈ words rules, ¬ w <:+: applyAll rules text := by
  intro w hw
  have hapart : ∀ s ∈ rules, ¬ Overlap s.replacement w := fun s hs => h.apart s hs w hw
  obtain ⟨r, hr, hrw⟩ := mem_words.mp hw
  obtain ⟨front, back, rfl⟩ := List.append_of_mem hr
  -- the rule removes its word from what the rules before it gave, and those behind it keep it out
  have hgone : ¬ w <:+: r.apply (applyAll front text) := by
    rw [r.apply_of_word? hrw]
    exact Text.not_infix_replaceAll_self (hapart r hr) _
  rw [applyAll_append]
  show ¬ w <:+: applyAll back (r.apply (applyAll front text))
  have hback : ∀ s ∈ back, s ∈ front ++ r :: back := fun s hs =>
    List.mem_append_right front (List.mem_cons_of_mem r hs)
  apply not_infix_applyAll
  · exact fun s hs => h.word_ne_nil s (hback s hs)
  · exact fun s hs => hapart s (hback s hs)
  · exact hgone

end Clean

/-- After clean rules nothing is left that any of them looks for, and applying them again changes
nothing. -/
theorem applyAll_applyAll (h : Clean rules) (text : List Char) :
    (∀ w ∈ words rules, ¬ w <:+: applyAll rules text) ∧
      applyAll rules (applyAll rules text) = applyAll rules text :=
  ⟨h.absent text, applyAll_of_absent h.literal (h.absent text)⟩

/-- Clean rules with words that overlap each other and themselves. -/
def overlappingWords : RuleSet :=
  [⟨.literal "aba".toList, "x-".toList⟩, ⟨.literal "bb".toList, "-".toList⟩,
    ⟨.literal "ab".toList, "y".toList⟩]

/-- Where words overlap, what the first rule leaves of them is there for the next ones. -/
theorem applyAll_applyAll_overlappingWords :
    Clean overlappingWords ∧
    applyAll overlappingWords "ababa abbaaab".toList = "x-ba a-aay".toList ∧
    (∀ w ∈ words overlappingWords, ¬ w <:+: "x-ba a-aay".toList) ∧
    applyAll overlappingWords "x-ba a-aay".toList = "x-ba a-aay".toList := by
  have hclean : Clean overlappingWords := ⟨by decide, by decide⟩
  have hrun : applyAll overlappingWords "ababa abbaaab".toList = "x-ba a-aay".toList := by cbv
  have hagain := applyAll_applyAll hclean "ababa abbaaab".toList
  rw [hrun] at hagain
  exact ⟨hclean, hrun, hagain⟩

end RuleSet
end Remap
