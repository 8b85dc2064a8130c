import Remap.Diff.Script
/-!
# Moving changes together

An insertion next to kept items can often be moved over them without changing what the script does:
`+a +b =a` comes to the same as `=a +b +a`. `settle` moves changes up and down as far as they go, so
that changes meet and become one run.

First the deletions are moved, which pass insertions only, and then the insertions, which pass
deletions and such kept items.
-/

namespace Remap.Diff

variable {α : Type} [DecidableEq α]

/-- Moves an insertion `q` up over kept items, the nearest first in `kept`, as long as the last item
inserted is the one that it passes. Gives the kept items that remain, the insertion, and the items
that were passed. -/
def slideUp : (kept q passed : List α) → List α × List α × List α
  | [], q, passed => ([], q, passed)
  | x :: kept, q, passed =>
    if q.getLast? = some x then slideUp kept (x :: q.dropLast) (x :: passed)
    else (x :: kept, q, passed)

/-- Moves an insertion `q` down over kept items. Gives the items that were passed, the last one
first, the insertion, and the kept items that remain. -/
def slideDown : (passed q kept : List α) → List α × List α × List α
  | passed, q, [] => (passed, q, [])
  | passed, q, x :: kept =>
    if q.head? = some x then slideDown (x :: passed) (q.tail ++ [x]) kept
    else (passed, q, x :: kept)

def keepBefore (xs : List α) (s : Script α) : Script α :=
  if xs.isEmpty then s
  else
    match s with
    | .keep ys :: rest => .keep (xs ++ ys) :: rest
    | s => .keep xs :: s

/-- Keeps some items after a script, which is given from its end. -/
def keepAfter (s : Script α) (xs : List α) : Script α :=
  if xs.isEmpty then s
  else
    match s with
    | .keep ys :: rest => .keep (ys ++ xs) :: rest
    | s => .keep xs :: s

/-- A change among the runs before it, the nearest first, and those after it. -/
structure Focus (α : Type) where
  before : Script α
  change : Run α
  after : Script α

/-- Moves a change up: over changes of the other kind, and an insertion over kept items that it can
pass. Changes of its own kind become part of it. -/
def moveUp : (before : Script α) → (change : Run α) → (after : Script α) → Focus α
  | [], change, after => ⟨[], change, after⟩
  | run :: before, change, after =>
    match run, change with
    | .keep kept, .insert q =>
      let (rest, q, passed) := slideUp kept.reverse q []
      let after := keepBefore passed after
      -- all kept items are passed, so the change comes to the runs above them
      if rest.isEmpty then moveUp before (.insert q) after
      else ⟨.keep rest.reverse :: before, .insert q, after⟩
    | .insert p, .insert q => moveUp before (.insert (p ++ q)) after
    | .delete p, .delete q => moveUp before (.delete (p ++ q)) after
    | .insert p, .delete q => moveUp before (.delete q) (.insert p :: after)
    | .delete p, .insert q => moveUp before (.insert q) (.delete p :: after)
    | run, change =>
      if run.isEmpty then moveUp before change after else ⟨run :: before, change, after⟩

def moveDown : (before : Script α) → (change : Run α) → (after : Script α) → Focus α
  | before, change, [] => ⟨before, change, []⟩
  | before, change, run :: after =>
    match change, run with
    | .insert q, .keep kept =>
      let (passed, q, rest) := slideDown [] q kept
      let before := keepAfter before passed.reverse
      if rest.isEmpty then moveDown before (.insert q) after
      else ⟨before, .insert q, .keep rest :: after⟩
    | .insert p, .insert q => moveDown before (.insert (p ++ q)) after
    | .delete p, .delete q => moveDown before (.delete (p ++ q)) after
    | .insert p, .delete q => moveDown (.delete q :: before) (.insert p) after
    | .delete p, .insert q => moveDown (.insert q :: before) (.delete p) after
    | change, run =>
      if run.isEmpty then moveDown before change after else ⟨before, change, run :: after⟩

/-- Moves every change of a kind up and then down, from the beginning of the script on. `done` are
the runs that have been passed, the nearest first. -/
def settleKind (kind : Run α → Bool) : (fuel : Nat) → (done rest : Script α) → Script α
  | 0, done, rest => done.reverse ++ rest
  | _ + 1, done, [] => done.reverse
  | fuel + 1, done, run :: rest =>
    if kind run then
      let up := moveUp done run rest
      -- going up first collects what can be joined, going down leaves the change where it is latest
      let f := moveDown up.before up.change up.after
      settleKind kind fuel (f.change :: f.before) f.after
    else settleKind kind fuel (run :: done) rest

omit [DecidableEq α] in
def Run.isDelete : Run α → Bool
  | delete _ => true
  | _ => false

omit [DecidableEq α] in
def Run.isInsert : Run α → Bool
  | insert _ => true
  | _ => false

/-- The script with its changes moved together. Each change that is moved adds two runs at most, so
that the fuel is enough. -/
def settle (s : Script α) : Script α :=
  let fuel (s : Script α) := (s.length + 2) * (s.length + 2)
  let s := settleKind Run.isDelete (fuel s) [] s
  settleKind Run.isInsert (fuel s) [] s

end Remap.Diff
