import Remap.Command.Run
import Remap.Proofs.Command.Request
/-!
# What a request leads to

A search ends, a conversion that fails ends with its report, and any other one is delivered.

Main statements: `convert_cases`, `plan_of_error` and `plan_of_ok`.
-/

namespace Remap

variable {look : Look Id} {s : Surroundings} {r : Request}

/-! ## Conversions -/

/-- How a conversion comes out, by what the two files hold. -/
theorem convert_cases (look : Look Id) (input mapping : Path) :
    (∃ e, look.read input = .error e ∧
      (convert look input mapping : Attempt).result = .error (.input input e)) ∨
    (∃ e, look.read mapping = .error e ∧
      (convert look input mapping : Attempt).result = .error (.mapping mapping e)) ∨
    (∃ rules e, look.read mapping = .ok rules ∧ Mapping.parse rules = .error e ∧
      (convert look input mapping : Attempt).result = .error (.invalid mapping e)) ∨
    (∃ text rules new, look.read input = .ok text ∧ look.read mapping = .ok rules ∧
      computeOutput text rules = .ok new ∧
      (convert look input mapping : Attempt).result = .ok ⟨text, new⟩) := by
  -- the input is read before the mapping, so a run reports its error if both fail
  cases hi : (look.read input : Except FileError (List Char)) with
  | error e =>
    refine .inl ⟨e, rfl, ?_⟩
    simp only [convert, hi]
    rfl
  | ok text =>
    cases hm : (look.read mapping : Except FileError (List Char)) with
    | error e =>
      refine .inr (.inl ⟨e, rfl, ?_⟩)
      simp only [convert, readMapping, hi, hm]
      rfl
    | ok rules =>
      have h := convert_result hi hm
      cases hp : Mapping.parse rules with
      | error e =>
        rw [computeOutput, hp] at h
        exact .inr (.inr (.inl ⟨rules, e, rfl, hp, h⟩))
      | ok rs =>
        refine .inr (.inr (.inr ⟨text, rules, rs.applyAll text, rfl, rfl, ?_, ?_⟩))
        · rw [computeOutput, hp]; rfl
        · rw [h, computeOutput, hp]; rfl

/-! ## Plans -/

/-- What the conversion of a request leaves in the log. -/
def Request.log (r : Request) (look : Look Id) : List Char :=
  attemptLog r.arguments.verbose r.mapping (convert look r.input r.mapping)

/-- A search ends without saving. -/
theorem plan_of_search {theme : Report.Theme} {term : List Char} (hm : r.mode = .search term) :
    ∃ x, (r.plan look s theme : Plan) = .exit x := by
  unfold Request.plan
  simp only [hm]
  exact ⟨_, rfl⟩

/-- A request to convert something ends without saving if the conversion fails, and reports why. -/
theorem plan_of_error {theme : Report.Theme} {e : ConversionError}
    (hm : ∀ term, r.mode ≠ .search term)
    (he : (convert look r.input r.mapping : Attempt).result = .error e) :
    (r.plan look s theme : Plan) =
      .exit { status := 1, err := r.log look ++ failureReport theme e.message } := by
  unfold Request.plan
  split
  next term h => exact absurd h (hm term)
  next =>
    simp only [bind, pure, he]
    rfl

/-- Otherwise the conversion is delivered. -/
theorem plan_of_ok {c : Conversion} (s : Surroundings) (theme : Report.Theme)
    (hm : ∀ term, r.mode ≠ .search term)
    (hc : (convert look r.input r.mapping : Attempt).result = .ok c) :
    (r.plan look s theme : Plan) = r.deliver theme c (r.log look) := by
  unfold Request.plan
  split
  next term h => exact absurd h (hm term)
  next =>
    simp only [bind, pure, hc]
    rfl

end Remap
