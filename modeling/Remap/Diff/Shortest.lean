import Remap.Diff.Script
/-!
# A short edit script

`shortest` finds an edit script by cutting the problem in two where a shortest script passes its
middle. `middle` finds that place: it follows, from either end and for more and more edits, how far
one comes on each diagonal, until the two ends meet.

Main statements: `oldSide_shortest` and `newSide_shortest`. They hold wherever the lists are cut.
-/

namespace Remap.Diff

/-- How far one comes on each diagonal; the diagonals are numbered from `-offset` on. -/
structure Frontier where
  reach : Array Nat
  offset : Nat

/-- The diagonal `k` is reached as far as the result says. -/
def Frontier.get (f : Frontier) (k : Int) : Nat := (f.reach[(k + f.offset).toNat]?).getD 0

def Frontier.put (f : Frontier) (k : Int) (x : Nat) : Frontier :=
  { f with reach := f.reach.setIfInBounds (k + f.offset).toNat x }

def Frontier.start (edits : Nat) : Frontier := ⟨Array.replicate (2 * edits + 3) 0, edits + 1⟩

variable {α : Type} [DecidableEq α]

/-- How many items agree in two arrays from `i` and `j` on; `n` of them are looked at, at most. -/
def agreement (a b : Array α) : (n i j : Nat) → Nat
  | 0, _, _ => 0
  | n + 1, i, j =>
    match a[i]?, b[j]? with
    | some x, some y => if x = y then agreement a b n (i + 1) (j + 1) + 1 else 0
    | _, _ => 0

/-- Where one arrives on the diagonal `k` with one edit more, before going on along it. -/
def Frontier.enter (f : Frontier) (edits : Nat) (k : Int) : Nat :=
  if k = -edits ∨ (k ≠ edits ∧ f.get (k - 1) < f.get (k + 1)) then f.get (k + 1)
  else f.get (k - 1) + 1

/-- Goes on by one edit on the diagonal `k`, and along it. Gives the place where the diagonal was
entered and the one reached on it. -/
def Frontier.advance (a b : Array α) (f : Frontier) (edits : Nat) (k : Int) :
    (Nat × Nat) × (Nat × Nat) :=
  let x := f.enter edits k
  let y := (x - k).toNat
  let n := agreement a b (min (a.size - x) (b.size - y)) x y
  ((x, y), (x + n, y + n))

/-- Both frontiers: `ahead` from the beginning of the lists `a` and `b`, `back` from their end, as
in the reversed lists `c` and `d`. -/
structure Search (α : Type) where
  a : Array α
  b : Array α
  c : Array α
  d : Array α
  ahead : Frontier
  back : Frontier

def Search.delta (s : Search α) : Int := (s.a.size : Int) - s.b.size

/-- Goes ahead on the diagonals from `k` down, `n` of them; the place where the ends meet, or the
search that goes on. -/
def Search.goAhead (edits : Nat) : (n : Nat) → (k : Int) → Search α → (Nat × Nat) ⊕ Search α
  | 0, _, s => .inr s
  | n + 1, k, s =>
    let (first, last) := s.ahead.advance s.a s.b edits k
    let s := { s with ahead := s.ahead.put k last.1 }
    let other := k - s.delta
    -- the ends can only meet here if the lengths differ by an odd number
    if s.delta % 2 ≠ 0 ∧ other.natAbs + 1 ≤ edits ∧ s.a.size ≤ last.1 + s.back.get (-other) then
      .inl first
    else goAhead edits n (k - 2) s

/-- Goes back on the diagonals from `k` down, `n` of them. -/
def Search.goBack (edits : Nat) : (n : Nat) → (k : Int) → Search α → (Nat × Nat) ⊕ Search α
  | 0, _, s => .inr s
  | n + 1, k, s =>
    let (_, last) := s.back.advance s.c s.d edits k
    let s := { s with back := s.back.put k last.1 }
    let other := k - s.delta
    -- and here if they differ by an even one
    if s.delta % 2 = 0 ∧ other.natAbs ≤ edits ∧ s.a.size ≤ last.1 + s.ahead.get (-other) then
      .inl (s.a.size - last.1, s.b.size - last.2)
    else goBack edits n (k - 2) s

/-- Goes on with `edits`, `edits + 1`, … edits from either end, `n` times. -/
def Search.run : (n edits : Nat) → Search α → Option (Nat × Nat)
  | 0, _, _ => none
  | n + 1, edits, s =>
    match s.goAhead edits (edits + 1) edits with
    | .inl place => some place
    | .inr s =>
      match s.goBack edits (edits + 1) edits with
      | .inl place => some place
      | .inr s => s.run n (edits + 1)

/-- How many items of either list come before the middle of a shortest script. -/
def middle (old new : List α) : Option (Nat × Nat) :=
  let edits := (old.length + new.length + 1) / 2 + 1
  Search.run edits 0 {
    a := old.toArray, b := new.toArray, c := old.reverse.toArray, d := new.reverse.toArray
    ahead := .start edits, back := .start edits }

/-- A run that keeps some items, if there are any. -/
def keepAny (xs : List α) : Script α := if xs.isEmpty then [] else [.keep xs]

def deleteAny (xs : List α) : Script α := if xs.isEmpty then [] else [.delete xs]

def insertAny (xs : List α) : Script α := if xs.isEmpty then [] else [.insert xs]

def replaceAll (old new : List α) : Script α := deleteAny old ++ insertAny new

/-- A script for two lists that begin and end differently; `solve` is used on their parts. -/
def cutMiddle (solve : List α → List α → Script α) : List α → List α → Script α
  | [], [] => []
  | old, [] => [.delete old]
  | [], new => [.insert new]
  | old, new =>
    match middle old new with
    | some (x, y) => solve (old.take x) (new.take y) ++ solve (old.drop x) (new.drop y)
    | none => replaceAll old new

/-- A shortest script. Each cut shortens the problem, so that as much `fuel` is enough as there are
items. -/
def shortestWith : (fuel : Nat) → List α → List α → Script α
  | 0, old, new => replaceAll old new
  | fuel + 1, old, new =>
    let (start, old, new) := commonStart old new
    let (stop, old, new) := commonEnd old new
    keepAny start ++ cutMiddle (shortestWith fuel) old new ++ keepAny stop

/-- A shortest script that leads from one list to another. -/
def shortest (old new : List α) : Script α := shortestWith (old.length + new.length + 1) old new

/-! ### The sides of the script -/

omit [DecidableEq α] in
@[simp] theorem oldSide_keepAny (xs : List α) : oldSide (keepAny xs) = xs := by
  cases xs <;> simp [keepAny, Run.old]

omit [DecidableEq α] in
@[simp] theorem newSide_keepAny (xs : List α) : newSide (keepAny xs) = xs := by
  cases xs <;> simp [keepAny, Run.new]

omit [DecidableEq α] in
@[simp] theorem oldSide_replaceAll (old new : List α) : oldSide (replaceAll old new) = old := by
  cases old <;> cases new <;> simp [replaceAll, deleteAny, insertAny, Run.old]

omit [DecidableEq α] in
@[simp] theorem newSide_replaceAll (old new : List α) : newSide (replaceAll old new) = new := by
  cases old <;> cases new <;> simp [replaceAll, deleteAny, insertAny, Run.new]

theorem sides_cutMiddle {solve : List α → List α → Script α}
    (h : ∀ old new, oldSide (solve old new) = old ∧ newSide (solve old new) = new)
    (old new : List α) :
    oldSide (cutMiddle solve old new) = old ∧ newSide (cutMiddle solve old new) = new := by
  unfold cutMiddle
  split
  · simp
  · simp [Run.old, Run.new]
  · simp [Run.old, Run.new]
  · split
    · simp [h]
    · simp

theorem sides_shortestWith (fuel : Nat) (old new : List α) :
    oldSide (shortestWith fuel old new) = old ∧ newSide (shortestWith fuel old new) = new := by
  induction fuel generalizing old new with
  | zero => simp [shortestWith]
  | succ fuel ih =>
    have h₁ := commonStart_eq old new
    have h₂ := commonEnd_eq (commonStart old new).2.1 (commonStart old new).2.2
    have h₃ := sides_cutMiddle ih
      (commonEnd (commonStart old new).2.1 (commonStart old new).2.2).2.1
      (commonEnd (commonStart old new).2.1 (commonStart old new).2.2).2.2
    constructor
    · simp only [shortestWith, oldSide_append, oldSide_keepAny, h₃.1, List.append_assoc]
      rw [← h₂.1, ← h₁.1]
    · simp only [shortestWith, newSide_append, newSide_keepAny, h₃.2, List.append_assoc]
      rw [← h₂.2, ← h₁.2]

theorem oldSide_shortest (old new : List α) : oldSide (shortest old new) = old :=
  (sides_shortestWith _ old new).1

theorem newSide_shortest (old new : List α) : newSide (shortest old new) = new :=
  (sides_shortestWith _ old new).2

end Remap.Diff
