import Std.Data.HashSet
import Remap.Regex.Program
import Remap.Unicode.Property
/-!
# Matching

A program is run on a text from one place after the other, and at each place in the order of
preference of its splits, so that the leftmost match wins and among those that start there the most
preferred. A place of the program is tried at a place of the text once only: what failed there
fails again, and a loop that has read nothing is not entered anew.
-/

namespace Remap.Regex

/-! ### Conditions on places -/

def isWordChar (unicode : Bool) (c : Char) : Bool :=
  if unicode then Unicode.wordSet.contains c else c.isAlphanum || c == '_'

/-- Whether a place lies so to the words around it, given whether the characters before and after
it belong to words. -/
def WordPlace.holds (before after : Bool) : WordPlace → Bool
  | boundary => before != after
  | inner => before == after
  | start => !before && after
  | stop => before && !after
  | startHalf => !before
  | stopHalf => !after

/-- Whether a condition holds between two characters, of which either may be missing. -/
def Look.holds (before after : Option Char) : Look → Bool
  | textStart => before.isNone
  | textEnd => after.isNone
  | lineStart false => before.isNone || before == some '\n'
  | lineStart true =>
    before.isNone || before == some '\n' || (before == some '\r' && after != some '\n')
  | lineEnd false => after.isNone || after == some '\n'
  | lineEnd true =>
    after.isNone || after == some '\r' || (after == some '\n' && before != some '\r')
  | word place unicode =>
    place.holds (before.any (isWordChar unicode)) (after.any (isWordChar unicode))

def Look.holdsAt (text : Array Char) (pos : Nat) (l : Look) : Bool :=
  l.holds (if pos = 0 then none else text[pos - 1]?) text[pos]?

/-! ### Running a program -/

/-- Places of the text that were noted, the last one first, each under its number. -/
abbrev Marks := List (Nat × Nat)

/-- The instructions that have been tried, with the places of the text at which they were. -/
abbrev Tried := Std.HashSet (Nat × Nat)

/-- Runs a program on a text from the instruction `pc` at the place `pos`: where the preferred
match ends and what it noted, and what has been tried. A run never comes twice to the same
instruction at the same place, so that as much `fuel` is enough as there are such pairs. -/
def explore (p : Program) (text : Array Char) : (fuel pc pos : Nat) → Marks → Tried →
    Option (Nat × Marks) × Tried
  | 0, _, _, _, tried => (none, tried)
  | fuel + 1, pc, pos, marks, tried =>
    if tried.contains (pc, pos) then (none, tried)
    else
      let tried := tried.insert (pc, pos)
      match p[pc]? with
      | none => (none, tried)
      | some .accept => (some (pos, marks), tried)
      | some (.char c next) =>
        if text[pos]? = some c then explore p text fuel next (pos + 1) marks tried
        else (none, tried)
      | some (.set s next) =>
        if text[pos]?.any s.contains then explore p text fuel next (pos + 1) marks tried
        else (none, tried)
      | some (.look l next) =>
        if l.holdsAt text pos then explore p text fuel next pos marks tried else (none, tried)
      | some (.mark slot next) => explore p text fuel next pos ((slot, pos) :: marks) tried
      | some (.split first second) =>
        match explore p text fuel first pos marks tried with
        | (some found, tried) => (some found, tried)
        -- what the first branch noted is dropped, what it tried is kept
        | (none, tried) => explore p text fuel second pos marks tried

/-- A match: where it starts and stops, and the places that were noted on the way. -/
structure Match where
  start : Nat
  stop : Nat
  marks : Marks := []
  deriving Repr

/-- Where a group of a match starts and stops, if it took part in the match. -/
def Match.group (m : Match) (i : Nat) : Option (Nat × Nat) :=
  match m.marks.lookup (2 * i), m.marks.lookup (2 * i + 1) with
  | some a, some b => some (a, b)
  | _, _ => none

structure Automaton where
  program : Program
  entry : Nat

namespace Automaton

def ofNode (n : Node) : Automaton :=
  let (entry, program) := n.emit 0 #[.accept]
  { program, entry }

/-- How many steps a run can take before it comes to an instruction and a place anew. -/
def fuel (a : Automaton) (text : Array Char) : Nat := a.program.size * (text.size + 1) + 1

/-- The first match that starts at one of the `count` places from `start` on. -/
def findAmong (a : Automaton) (text : Array Char) : (count start : Nat) → Tried → Option Match
  | 0, _, _ => none
  | count + 1, start, tried =>
    match explore a.program text (a.fuel text) a.entry start [] tried with
    | (some (stop, marks), _) => some { start, stop, marks }
    | (none, tried) => findAmong a text count (start + 1) tried

/-- The first match that starts at `start` or later. -/
def find (a : Automaton) (text : Array Char) (start : Nat) : Option Match :=
  a.findAmong text (text.size + 1 - start) start ∅

/-- The next match from `start` on, `last` being where the one before it stopped: an empty match
there does not count, and the search goes on one character further. -/
def findNext (a : Automaton) (text : Array Char) (start : Nat) (last : Option Nat) : Option Match :=
  match a.find text start with
  | none => none
  | some m =>
    if m.start = m.stop ∧ last = some m.stop then a.find text (start + 1) else some m

/-- The matches from `start` on, one after the other; there are `fuel` of them at most. -/
def matchesFrom (a : Automaton) (text : Array Char) : (fuel start : Nat) → Option Nat → List Match
  | 0, _, _ => []
  | fuel + 1, start, last =>
    match a.findNext text start last with
    | none => []
    | some m => m :: matchesFrom a text fuel m.stop (some m.stop)

/-- All matches in a text, from the left, without overlap. Each stops further on than the one
before it, but for an empty one at the start. -/
def allMatches (a : Automaton) (text : Array Char) : List Match :=
  a.matchesFrom text (text.size + 2) 0 none

end Automaton
end Remap.Regex
