import Remap.Mapping.Rule
import Remap.Proofs.Pattern.Replacement
/-!
# Rules that change nothing

A literal rule puts its text back if its replacement is that text, and a pattern rule if its
replacement is `$&`. Such rules leave every text as it is: the gaps between the matches are kept,
and every match is put where it was.

Main statements: `Pattern.replace_eq_self` and `RuleSet.applyAll_eq_self`.
-/

namespace Remap

/-- The template `$&` stands for the whole match. -/
theorem Template.expand_whole (shape : Shape) (m : Matched) :
    expand shape m ['$', '&'] = m.whole := by
  have hitems : items shape ['$', '&'] = [.whole] := by
    rw [items, if_pos rfl]
    show Item.whole :: items shape [] = [.whole]
    rw [items]
  rw [expand, hitems]
  exact List.append_nil m.whole

/-- Putting every match in its own place gives the text back, whatever the pattern and its flags. -/
theorem Pattern.replace_eq_self (p : Pattern) (text : List Char) :
    p.replace text ['$', '&'] = text := by
  have horder : Regex.InOrder text.toArray 0 (p.found text) :=
    (p.regex.automaton.inOrder_allMatches text.toArray).of_begins (Regex.usedMatches_begins _ _)
  have hwhole : ∀ m : Regex.Match, Template.expand p.shape (p.matched text m) ['$', '&'] =
      slice text m.start m.stop := fun m => Template.expand_whole p.shape (p.matched text m)
  calc p.replace text ['$', '&']
      = splice 0 text ((p.found text).map fun m =>
          (m.start, m.stop, slice text m.start m.stop)) := by
        rw [replace]
        simp only [hwhole]
    _ = fill (gaps text 0 (p.found text))
          ((p.found text).map fun m => slice text m.start m.stop) :=
        splice_eq_fill (fun m => slice text m.start m.stop) horder
    _ = text := fill_gaps horder

/-- A rule whose replacement stands for what it finds. -/
inductive Rule.PutsBack : Rule → Prop
  | literal (w : List Char) : PutsBack ⟨.literal w, w⟩
  | pattern (p : Pattern) : PutsBack ⟨.pattern p, ['$', '&']⟩

theorem Rule.PutsBack.apply_eq_self {r : Rule} (h : r.PutsBack) (text : List Char) :
    r.apply text = text := by
  cases h with
  | literal w => exact Text.pieces_join w text
  | pattern p => exact p.replace_eq_self text

/-- Rules that put back what they find leave every text as it is. -/
theorem RuleSet.applyAll_eq_self {rules : RuleSet} (h : ∀ r ∈ rules, r.PutsBack)
    (text : List Char) : applyAll rules text = text := by
  induction rules with
  | nil => rfl
  | cons r rules ih =>
    show applyAll rules (r.apply text) = text
    rw [(h r List.mem_cons_self).apply_eq_self text]
    exact ih fun s hs => h s (List.mem_cons_of_mem r hs)

/-- Matches that are empty and one that is not, in the middle and at both ends of the text. -/
theorem RuleSet.applyAll_eq_self_empty_matches :
    ∃ p, Pattern.compile "b*".toList "g".toList = .ok p ∧
      (p.found "abba".toList).map (fun m => (m.start, m.stop)) = [(0, 0), (1, 3), (4, 4)] ∧
      applyAll [⟨.pattern p, ['$', '&']⟩, ⟨.literal ['$'], ['$']⟩] "abba".toList =
        "abba".toList := by
  obtain ⟨p, hp, hfound⟩ :
      ∃ p, Pattern.compile "b*".toList "g".toList = .ok p ∧
        (p.found "abba".toList).map (fun m => (m.start, m.stop)) = [(0, 0), (1, 3), (4, 4)] :=
    ⟨_, rfl, by cbv⟩
  refine ⟨p, hp, hfound, applyAll_eq_self ?_ "abba".toList⟩
  intro r hr
  rcases List.mem_cons.mp hr with rfl | hr
  · exact .pattern p
  · rw [List.mem_singleton.mp hr]
    exact .literal ['$']

end Remap
