/-!
# Edit scripts

An edit script turns one list into another. It is a list of runs: items that both lists have, items
that only the old one has, and items that only the new one has. `oldSide` and `newSide` read the two
lists off a script.
-/

namespace Remap.Diff

inductive Run (α : Type)
  | keep (xs : List α)
  | delete (xs : List α)
  | insert (xs : List α)
  deriving Repr

variable {α : Type}

def Run.isEmpty : Run α → Bool
  | keep xs => xs.isEmpty
  | delete xs => xs.isEmpty
  | insert xs => xs.isEmpty

/-- The items of the old list in a run. -/
def Run.old : Run α → List α
  | keep xs => xs
  | delete xs => xs
  | insert _ => []

/-- The items of the new list in a run. -/
def Run.new : Run α → List α
  | keep xs => xs
  | delete _ => []
  | insert xs => xs

abbrev Script (α : Type) := List (Run α)

/-- The list that a script starts from. -/
def oldSide (s : Script α) : List α := s.flatMap Run.old

/-- The list that a script leads to. -/
def newSide (s : Script α) : List α := s.flatMap Run.new

@[simp] theorem oldSide_nil : oldSide ([] : Script α) = [] := rfl

@[simp] theorem newSide_nil : newSide ([] : Script α) = [] := rfl

@[simp] theorem oldSide_cons (r : Run α) (s : Script α) : oldSide (r :: s) = r.old ++ oldSide s :=
  rfl

@[simp] theorem newSide_cons (r : Run α) (s : Script α) : newSide (r :: s) = r.new ++ newSide s :=
  rfl

@[simp] theorem oldSide_append (s t : Script α) : oldSide (s ++ t) = oldSide s ++ oldSide t :=
  List.flatMap_append

@[simp] theorem newSide_append (s t : Script α) : newSide (s ++ t) = newSide s ++ newSide t :=
  List.flatMap_append

/-! ### Common beginnings and ends -/

variable [DecidableEq α]

/-- The longest common beginning of two lists, and what follows it in either. -/
def commonStart : List α → List α → List α × List α × List α
  | a :: as, b :: bs =>
    if a = b then
      let (c, x, y) := commonStart as bs
      (a :: c, x, y)
    else ([], a :: as, b :: bs)
  | as, bs => ([], as, bs)

theorem commonStart_eq (as bs : List α) :
    as = (commonStart as bs).1 ++ (commonStart as bs).2.1 ∧
      bs = (commonStart as bs).1 ++ (commonStart as bs).2.2 := by
  induction as generalizing bs with
  | nil => simp [commonStart]
  | cons a as ih =>
    cases bs with
    | nil => simp [commonStart]
    | cons b bs =>
      by_cases h : a = b
      · subst h
        simpa [commonStart] using ih bs
      · simp [commonStart, h]

/-- The longest common end of two lists, and what comes before it in either. -/
def commonEnd (as bs : List α) : List α × List α × List α :=
  let (c, x, y) := commonStart as.reverse bs.reverse
  (c.reverse, x.reverse, y.reverse)

theorem commonEnd_eq (as bs : List α) :
    as = (commonEnd as bs).2.1 ++ (commonEnd as bs).1 ∧
      bs = (commonEnd as bs).2.2 ++ (commonEnd as bs).1 := by
  have h := commonStart_eq as.reverse bs.reverse
  constructor
  · have := congrArg List.reverse h.1
    simpa [commonEnd] using this
  · have := congrArg List.reverse h.2
    simpa [commonEnd] using this

end Remap.Diff
