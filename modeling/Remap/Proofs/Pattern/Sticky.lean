import Mathlib
import Remap.Proofs.Pattern.Flags
import Remap.Proofs.Regex.Anchor
import Remap.Proofs.Regex.Enclosed.Reader
/-!
# Sticky patterns

A pattern that is sticky and does not replace everywhere takes the first match and refuses it unless
it is at the start of the text. That is as good as having the expression match at the start of the
text only.

Main statement: `Pattern.replace_eq_replace_anchored`.
-/

namespace Remap

/-! ## Flags -/

namespace Flags

theorem eq_insert_of_ofText?_append {letters : List Char} {f : Flag} {fs gs : Flags}
    (hf : ofText? (letters ++ [f.letter]) = .ok fs) (hg : ofText? letters = .ok gs) :
    fs = gs.insert f := by
  refine ext_has fun g => ?_
  have hletter : g.letter = f.letter ↔ f = g :=
    ⟨fun h => Flag.letter_inj h.symm, fun h => congrArg Flag.letter h.symm⟩
  rw [has_of_ofText? hf, has_insert, has_of_ofText? hg, Bool.eq_iff_iff]
  simp only [List.contains_iff_mem, List.mem_append, List.mem_singleton, hletter,
    Bool.or_eq_true, decide_eq_true_eq]
  exact or_comm

/-- A flag whose letter is not there is not set. -/
theorem has_eq_false_of_not_mem {letters : List Char} {f : Flag} {fs : Flags}
    (h : ofText? letters = .ok fs) (hf : f.letter ∉ letters) : fs.has f = false := by
  rw [has_of_ofText? h, Bool.eq_false_iff]
  exact mt List.contains_iff_mem.mp hf

end Flags

namespace Regex

/-! ## The first match -/

/-- The first of the matches is the one that is found from the start. -/
theorem Automaton.head?_allMatches (a : Automaton) (text : Array Char) :
    (a.allMatches text).head? = a.find text 0 := by
  rw [allMatches, matchesFrom, findNext]
  cases h : a.find text 0 with
  | none => rfl
  | some m =>
    have hfirst : ¬ (m.start = m.stop ∧ none = some m.stop) := by
      rintro ⟨-, hlast⟩
      cases hlast
    dsimp only
    rw [if_neg hfirst]
    rfl

theorem take_one_joined (found : List Match) :
    (joined 0 found).take 1 = (found.head?.filter (·.start == 0)).toList := by
  cases found with
  | nil => rfl
  | cons m ms =>
    rw [joined, List.head?_cons, Option.filter_some]
    by_cases hm : m.start = 0
    · rw [if_pos hm, if_pos (beq_iff_eq.mpr hm)]
      rfl
    · rw [if_neg hm, if_neg (mt beq_iff_eq.mp hm)]
      rfl

theorem node_of_compile {mode : Mode} {source : List Char} {r : Regex}
    (h : compile mode source = .ok r) :
    ∃ n, (Ast.parse source).bind (Ast.meaning mode) = .ok n ∧ r = ofNode n := by
  unfold compile at h
  split at h
  · cases h
  next n hn =>
    split at h
    · cases h
    · exact ⟨n, hn, (Except.ok.inj h).symm⟩

/-- Behind the sign of the start an expression has the same groups under the same names, and finds
what it finds without, if that is at the start. -/
theorem compile_anchored {mode : Mode} {source : List Char} {r s : Regex}
    (hr : compile mode source = .ok r)
    (hs : compile mode ("\\A(?:".toList ++ (source ++ [')'])) = .ok s) :
    s.groupCount = r.groupCount ∧ s.names = r.names ∧
      ∀ text, s.automaton.find text 0 = (r.automaton.find text 0).filter (·.start == 0) := by
  obtain ⟨n, hn, rfl⟩ := node_of_compile hr
  obtain ⟨m, hm, rfl⟩ := node_of_compile hs
  obtain rfl := Ast.meaning_parse_anchored hn hm
  exact ⟨Nat.zero_max _, rfl, Automaton.find_anchored n⟩

end Regex

namespace Pattern

/-- Only the first match is replaced, and with the sticky flag only at the start of the text. -/
theorem found_of_not_everywhere {p : Pattern} (h : p.flags.everywhere = false) (text : List Char) :
    p.found text = if p.flags.sticky then
        ((p.regex.automaton.find text.toArray 0).filter (·.start == 0)).toList
      else (p.regex.automaton.find text.toArray 0).toList := by
  unfold found Regex.usedMatches
  rw [h, ← Regex.Automaton.head?_allMatches]
  split
  · exact Regex.take_one_joined _
  · exact List.take_one

/-- A sticky pattern that does not replace everywhere replaces what the pattern replaces whose
expression has to match at the start of the text. -/
theorem replace_eq_replace_anchored {source letters : List Char} {p q : Pattern}
    (hletters : ∀ c ∈ letters, c ∈ ['i', 'm', 's', 'u'])
    (hp : compile source (letters ++ ['y']) = .ok p)
    (hq : compile ("\\A(?:".toList ++ (source ++ [')'])) letters = .ok q)
    (text template : List Char) : p.replace text template = q.replace text template := by
  obtain ⟨-, hpflags, hpregex⟩ := of_compile hp
  obtain ⟨-, hqflags, hqregex⟩ := of_compile hq
  -- the flags differ in the sticky one only
  have hflags : p.flags = q.flags.insert .sticky :=
    Flags.eq_insert_of_ofText?_append (f := .sticky) hpflags hqflags
  have hmode : p.flags.mode = q.flags.mode := by
    rw [hflags]
    rfl
  have hpg : p.flags.everywhere = q.flags.everywhere := by
    rw [hflags]
    rfl
  have hpy : p.flags.sticky = true := by
    rw [hflags]
    rfl
  have hg : q.flags.everywhere = false := Flags.has_eq_false_of_not_mem (f := .everywhere) hqflags
    fun h => absurd (hletters _ h) (by decide)
  have hy : q.flags.sticky = false := Flags.has_eq_false_of_not_mem (f := .sticky) hqflags
    fun h => absurd (hletters _ h) (by decide)
  -- so do the expressions in the sign of the start
  rw [hmode] at hpregex
  obtain ⟨hcount, hnames, hfind⟩ := Regex.compile_anchored hpregex hqregex
  have hfound : p.found text = q.found text := by
    rw [found_of_not_everywhere (hpg.trans hg), found_of_not_everywhere hg, hpy, hy, hfind]
    rfl
  have hshape : p.shape = q.shape := by rw [shape, shape, hcount, hnames]
  have hmatched : p.matched text = q.matched text := by
    funext m
    rw [matched, matched, hnames]
  rw [replace, replace, hfound, hshape, hmatched]

/-- The alternative that is taken at the start is not the first one, and its group keeps its name; a
match further on is not replaced. -/
theorem replace_eq_replace_anchored_alternatives :
    (∀ c ∈ ['m'], c ∈ ['i', 'm', 's', 'u']) ∧
    ∃ p q, compile "b|(?<_>ab$)".toList (['m'] ++ ['y']) = .ok p ∧
      compile ("\\A(?:".toList ++ ("b|(?<_>ab$)".toList ++ [')'])) ['m'] = .ok q ∧
      p.replace "ab\nab".toList "<$<_>>".toList = q.replace "ab\nab".toList "<$<_>>".toList ∧
      q.replace "ab\nab".toList "<$<_>>".toList = "<ab>\nab".toList := by
  have hletters : ∀ c ∈ ['m'], c ∈ ['i', 'm', 's', 'u'] :=
    List.forall_mem_singleton.mpr (.tail _ (.head _))
  obtain ⟨p, hp⟩ : ∃ p, compile "b|(?<_>ab$)".toList (['m'] ++ ['y']) = .ok p := ⟨_, rfl⟩
  obtain ⟨q, hq, hreplace⟩ : ∃ q,
      compile ("\\A(?:".toList ++ ("b|(?<_>ab$)".toList ++ [')'])) ['m'] = .ok q ∧
        q.replace "ab\nab".toList "<$<_>>".toList = "<ab>\nab".toList := ⟨_, rfl, by cbv⟩
  exact ⟨hletters, p, q, hp, hq, replace_eq_replace_anchored hletters hp hq _ _, hreplace⟩

end Pattern
end Remap
