import Remap.Diff.Shortest
import Remap.Diff.Settle
/-!
# Hunks

`blocks` puts together what a script keeps and what it changes in one place. `hunks` leaves out the
kept items that are far from any change: a hunk is a list of tagged items, with some kept items
around and between its changes.
-/

namespace Remap.Diff

variable {α : Type}

/-- What becomes of an item. -/
inductive Tag
  | keep
  | delete
  | insert
  deriving DecidableEq, Repr

/-- A place of a script: items that are kept, or items that are deleted and inserted. -/
inductive Block (α : Type)
  | same (xs : List α)
  | change (deleted inserted : List α)
  deriving Repr

/-- A run before some blocks, joined to the first of them where it is of the same sort. -/
def Run.attach : Run α → List (Block α) → List (Block α)
  | keep xs, .same ys :: bs => .same (xs ++ ys) :: bs
  | keep xs, bs => .same xs :: bs
  | delete xs, .change ds is :: bs => .change (xs ++ ds) is :: bs
  | delete xs, bs => .change xs [] :: bs
  | insert xs, .change ds is :: bs => .change ds (xs ++ is) :: bs
  | insert xs, bs => .change [] xs :: bs

def blocks : Script α → List (Block α)
  | [] => []
  | r :: s => r.attach (blocks s)

/-- A list of tagged items. -/
abbrev Hunk (α : Type) := List (Tag × α)

/-- The items with one tag. -/
def tagged (t : Tag) (xs : List α) : Hunk α := xs.map fun x => (t, x)

def lastItems (n : Nat) (xs : List α) : List α := xs.drop (xs.length - n)

/-- Hunks for the blocks after a change, `current` being the hunk so far: kept items that are few go
on with it, and more than `2 * n` of them end it. -/
def hunksAfter (n : Nat) (current : Hunk α) : List (Block α) → List (Hunk α)
  | [] => [current]
  | [.same xs] => [current ++ tagged .keep (xs.take n)]
  | .same xs :: bs =>
    if 2 * n < xs.length then
      (current ++ tagged .keep (xs.take n)) :: hunksAfter n (tagged .keep (lastItems n xs)) bs
    else hunksAfter n (current ++ tagged .keep xs) bs
  | .change ds is :: bs => hunksAfter n (current ++ tagged .delete ds ++ tagged .insert is) bs

/-- The hunks of some blocks, with at most `n` kept items before the first change of each and after
the last one. -/
def hunksOf (n : Nat) : List (Block α) → List (Hunk α)
  | [] => []
  | [.same _] => []
  | .same xs :: bs => hunksAfter n (tagged .keep (lastItems n xs)) bs
  | bs => hunksAfter n [] bs

def hunks [DecidableEq α] (n : Nat) (old new : List α) : List (Hunk α) :=
  hunksOf n (blocks (settle (shortest old new)))

end Remap.Diff
