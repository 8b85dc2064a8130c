import Remap.Proofs.Mapping.Grammar
import Remap.Proofs.Pattern.Token
/-!
# Matchers as they are written

A matcher that was read from a token is read again from the text that it is written as. Two such
matchers that are written alike are the same: the source and the flags of a pattern settle its
expression, so that the expressions need not be compared.

Main statements: `Pattern.eq_of_same`, `Matcher.ofToken_cases`, `Matcher.ofToken_toText` and
`Matcher.same_ofToken_toText`.
-/

namespace Remap

/-! ## Patterns -/

/-- Compiled patterns that are written alike have the same expression. -/
theorem Pattern.eq_of_same {source source' letters letters' : List Char} {p q : Pattern}
    (hp : compile source letters = .ok p) (hq : compile source' letters' = .ok q)
    (h : p.same q = true) : p = q := by
  obtain ⟨rfl, -, hpregex⟩ := of_compile hp
  obtain ⟨rfl, -, hqregex⟩ := of_compile hq
  obtain ⟨psource, pflags, pregex⟩ := p
  obtain ⟨qsource, qflags, qregex⟩ := q
  obtain ⟨hsource, hflags⟩ : psource = qsource ∧ pflags = qflags := by simpa [same] using h
  subst hsource hflags
  have hregex : pregex = qregex := Except.ok.inj (hpregex.symm.trans hqregex)
  rw [hregex]

theorem PatternParts.toText {token letters : List Char} {p : Pattern}
    (h : PatternParts token p.source letters) : PatternParts p.toText p.source p.flags.toText where
  eq := by simp [Pattern.toText]
  body_ne_nil := h.body_ne_nil
  no_newline := h.no_newline
  letters_mem _ := Flags.mem_letters_of_mem_toText

namespace Matcher

/-! ## The matcher of a token -/

/-- A token whose parts can be compiled is a pattern. -/
theorem ofToken_of_compile {token body letters : List Char} {p : Pattern}
    (h : PatternParts token body letters) (hp : Pattern.compile body letters = .ok p) :
    ofToken token = (pattern p, none) := by
  rw [ofToken, splitToken_eq_some_iff.mpr h]
  dsimp only
  rw [hp]

/-- A token is read as itself, or as the pattern that is compiled of its parts. -/
theorem ofToken_cases (token : List Char) :
    (ofToken token).1 = literal token ∨
      ∃ p letters, (ofToken token).1 = pattern p ∧ PatternParts token p.source letters ∧
        Pattern.compile p.source letters = .ok p := by
  have h := Mapping.denotes_ofToken token
  generalize (ofToken token).1 = m at h ⊢
  generalize (ofToken token).2 = rejection at h
  cases h with
  | literal => exact .inl rfl
  | rejected => exact .inl rfl
  | @pattern body letters p hsplit hp =>
    obtain ⟨rfl, -, -⟩ := Pattern.of_compile hp
    exact .inr ⟨p, letters, rfl, splitToken_eq_some_iff.mp hsplit, hp⟩

/-- What a token is read as is read again when it is written: a pattern is compiled again, and a
token that was refused is refused again. -/
theorem ofToken_toText (token : List Char) :
    (ofToken (ofToken token).1.toText).1 = (ofToken token).1 := by
  rcases ofToken_cases token with h | ⟨p, letters, h, hparts, hp⟩
  · rw [h]
    exact h
  · rw [h]
    show (ofToken p.toText).1 = pattern p
    rw [ofToken_of_compile hparts.toText (Pattern.compile_toText hp)]

/-! ## Matchers that are written alike -/

theorem same_refl (m : Matcher) : m.same m = true := by
  cases m <;> simp [same, Pattern.same]

/-- Matchers of tokens are the same if they are written alike. -/
theorem eq_of_same {token token' : List Char}
    (h : (ofToken token).1.same (ofToken token').1 = true) :
    (ofToken token).1 = (ofToken token').1 := by
  rcases ofToken_cases token with hm | ⟨p, letters, hm, -, hp⟩ <;>
    rcases ofToken_cases token' with hm' | ⟨q, letters', hm', -, hq⟩ <;> rw [hm, hm'] at h ⊢
  · exact congrArg literal (beq_iff_eq.mp h)
  · cases h
  · cases h
  · exact congrArg pattern (Pattern.eq_of_same hp hq h)

/-- The text of a matcher stands for that matcher, and matchers that are written alike do the same
in all rules. -/
theorem same_ofToken_toText (token : List Char) :
    (ofToken (ofToken token).1.toText).1.same (ofToken token).1 = true ∧
      ∀ token', (ofToken token).1.same (ofToken token').1 = true → ∀ new text,
        Rule.apply ⟨(ofToken token).1, new⟩ text = Rule.apply ⟨(ofToken token').1, new⟩ text := by
  constructor
  · rw [ofToken_toText]
    exact same_refl _
  · intro token' h new text
    rw [eq_of_same h]

/-- The flag letters stand in another order, behind a body that ends with a backslash and a
slash. -/
theorem same_ofToken_toText_letters :
    (ofToken (ofToken "/(b)\\//yg".toList).1.toText).1.same (ofToken "/(b)\\//yg".toList).1 = true ∧
      (ofToken "/(b)\\//yg".toList).1.same (ofToken "/(b)\\//gy".toList).1 = true ∧
      Rule.apply ⟨(ofToken "/(b)\\//yg".toList).1, "<$1>".toList⟩ "b/b/ab/".toList =
        Rule.apply ⟨(ofToken "/(b)\\//gy".toList).1, "<$1>".toList⟩ "b/b/ab/".toList := by
  obtain ⟨hagain, halike⟩ := same_ofToken_toText "/(b)\\//yg".toList
  have hsame : (ofToken "/(b)\\//yg".toList).1.same (ofToken "/(b)\\//gy".toList).1 = true := rfl
  exact ⟨hagain, hsame, halike _ hsame _ _⟩

end Matcher
end Remap
