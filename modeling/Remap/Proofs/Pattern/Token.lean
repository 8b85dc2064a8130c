import Remap.Pattern.Token
import Remap.Proofs.Pattern.Flags
import Remap.Proofs.Text.Blank
/-!
# Patterns as tokens

A token is read as a pattern exactly if it is written `/body/letters`, and there is one way only to
take it apart like this: the closing slash is the last one.

Main statements: `splitToken_eq_some_iff` and `splitToken_parts`.
-/

namespace Remap

/-! ## The last slash -/

theorem eq_of_cutLast {x : Char} {cs before after : List Char}
    (h : cutLast x cs = some (before, after)) : cs = before ++ x :: after := by
  induction cs generalizing before with
  | nil => cases h
  | cons c cs ih =>
    rw [cutLast] at h
    split at h
    next hcut =>
      cases h
      rw [ih hcut]
      rfl
    next =>
      split at h
      next hc =>
        cases h
        rw [hc]
        rfl
      next => cases h

theorem cutLast_eq_none {x : Char} {cs : List Char} (h : x ∉ cs) : cutLast x cs = none := by
  induction cs with
  | nil => rfl
  | cons c cs ih =>
    rw [List.mem_cons, not_or] at h
    rw [cutLast, ih h.2]
    exact if_neg (Ne.symm h.1)

/-- The last occurrence is the one behind which there is no other. -/
theorem cutLast_append {x : Char} {after : List Char} (before : List Char) (h : x ∉ after) :
    cutLast x (before ++ x :: after) = some (before, after) := by
  induction before with
  | nil =>
    rw [List.nil_append, cutLast, cutLast_eq_none h]
    exact if_pos rfl
  | cons c before ih => rw [List.cons_append, cutLast, ih]

/-! ## Tokens -/

/-- The parts of a token that is written `/body/letters`. -/
structure PatternParts (token body letters : List Char) : Prop where
  eq : token = '/' :: body ++ '/' :: letters
  body_ne_nil : body ≠ []
  no_newline : '\n' ∉ body
  letters_mem : ∀ c ∈ letters, c ∈ Flag.letters

/-- No slash stands behind the closing one. -/
theorem PatternParts.slash_not_mem {token body letters : List Char}
    (h : PatternParts token body letters) : '/' ∉ letters :=
  fun hm => absurd (h.letters_mem '/' hm) (by decide)

theorem PatternParts.head?_eq {token body letters : List Char}
    (h : PatternParts token body letters) : token.head? = some '/' := by
  rw [h.eq]
  rfl

theorem PatternParts.body_isInfix {token body letters : List Char}
    (h : PatternParts token body letters) : body <:+: token :=
  ⟨['/'], '/' :: letters, by rw [h.eq]; rfl⟩

/-- Neither slashes nor flag letters are white space. -/
theorem PatternParts.trimmed {token body letters : List Char}
    (h : PatternParts token body letters) : Text.Trimmed token where
  first c hc := by
    rw [h.head?_eq] at hc
    cases hc
    decide
  last c hc := by
    rw [h.eq, List.getLast?_append_of_ne_nil _ (List.cons_ne_nil _ _)] at hc
    rcases List.mem_cons.mp (List.mem_of_getLast? hc) with rfl | hc
    · decide
    · obtain ⟨f, rfl⟩ := Flag.exists_of_mem_letters (h.letters_mem c hc)
      cases f <;> decide

/-- A token is taken apart exactly as it is written. -/
theorem splitToken_eq_some_iff {token body letters : List Char} :
    splitToken token = some (body, letters) ↔ PatternParts token body letters := by
  constructor
  · intro h
    unfold splitToken at h
    split at h
    next rest =>
      split at h
      next hcut =>
        split at h
        next hok =>
          cases h
          refine ⟨by rw [eq_of_cutLast hcut]; rfl, hok.1, hok.2.1, ?_⟩
          intro c hc
          exact Flag.isSome_ofLetter?_iff.mp (List.all_eq_true.mp hok.2.2 c hc)
        next => cases h
      next => cases h
    next => cases h
  · intro h
    -- the letters have no slash, so the last slash of the token is the one behind the body
    have hcut := cutLast_append body h.slash_not_mem
    have hall : letters.all (fun c => (Flag.ofLetter? c).isSome) = true := by
      rw [List.all_eq_true]
      exact fun c hc => Flag.isSome_ofLetter?_iff.mpr (h.letters_mem c hc)
    rw [h.eq, List.cons_append, splitToken, hcut]
    dsimp only
    rw [if_pos ⟨h.body_ne_nil, h.no_newline, hall⟩]

/-- A token has one body and one row of letters, whatever slashes are in it. -/
theorem PatternParts.unique {token body letters body' letters' : List Char}
    (h : PatternParts token body letters) (h' : PatternParts token body' letters') :
    body = body' ∧ letters = letters' := by
  have heq : some (body, letters) = some (body', letters') := by
    rw [← splitToken_eq_some_iff.mpr h, splitToken_eq_some_iff.mpr h']
  exact Prod.mk.inj (Option.some.inj heq)

/-- A token has the parts that it is taken apart into, and no others; it is a pattern if there are
such parts. -/
theorem splitToken_parts (token : List Char) :
    (∀ body letters, splitToken token = some (body, letters) ↔ PatternParts token body letters) ∧
      (∀ body letters body' letters', PatternParts token body letters →
        PatternParts token body' letters' → body = body' ∧ letters = letters') ∧
      (isPatternToken token = true ↔ ∃ body letters, PatternParts token body letters) := by
  refine ⟨fun body letters => splitToken_eq_some_iff, fun _ _ _ _ h h' => h.unique h', ?_⟩
  rw [isPatternToken, Option.isSome_iff_exists]
  simp only [Prod.exists, splitToken_eq_some_iff]

/-- Neither the slashes of the body nor letters that come twice make another cut. -/
theorem splitToken_parts_slashes :
    let token := "///é//gig".toList
    PatternParts token "//é/".toList "gig".toList ∧
      splitToken token = some ("//é/".toList, "gig".toList) ∧ isPatternToken token = true ∧
      ¬ PatternParts token "//é".toList "/gig".toList := by
  intro token
  obtain ⟨hsplit, hunique, hpattern⟩ := splitToken_parts token
  have htoken : splitToken token = some ("//é/".toList, "gig".toList) := rfl
  have h : PatternParts token "//é/".toList "gig".toList := (hsplit _ _).mp htoken
  refine ⟨h, htoken, hpattern.mpr ⟨_, _, h⟩, ?_⟩
  intro h'
  have hbody := (hunique _ _ _ _ h h').1
  exact absurd hbody (by decide)

/-! ## Patterns as they are written -/

theorem Flags.mem_letters_of_mem_toText {fs : Flags} {c : Char} (h : c ∈ fs.toText) :
    c ∈ Flag.letters := by
  obtain ⟨f, -, rfl⟩ := List.mem_map.mp h
  exact f.letter_mem

/-- Flag letters are neither blanks nor signs. -/
theorem Flags.not_mem_toText {c : Char} (h : c ∉ Flag.letters) (fs : Flags) : c ∉ fs.toText :=
  fun hm => h (mem_letters_of_mem_toText hm)

end Remap
