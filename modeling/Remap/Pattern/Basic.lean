import Remap.Pattern.Flags
import Remap.Pattern.Template
import Remap.Regex.Basic
/-!
# Patterns

A pattern is a regular expression with flags. `Pattern.compile` makes one of its source, and
`Pattern.replace` puts a template in the place of its matches.

Which matches are replaced is said by `usedMatches`: all of them or the first only, and with the
sticky flag only those that join on to one another from the start of the text. `splice` puts texts
in their places and keeps the rest.
-/

namespace Remap

/-- A regular expression with the source and the flags that it was made of. -/
structure Pattern where
  source : List Char
  flags : Flags
  regex : Regex

inductive PatternError
  /-- A flag came twice. -/
  | duplicateFlag (letters : List Char) (flag : Char)
  | regex (source : List Char) (error : Regex.CompileError)
  deriving DecidableEq, Repr

def PatternError.message : PatternError → List Char
  | duplicateFlag letters flag =>
    "Invalid flags '".toList ++ letters ++ "': duplicate flag '".toList ++ [flag, '\'']
  | regex source error => error.message source

/-- The flags that hold where the expression starts. -/
def Flags.mode (fs : Flags) : Regex.Mode where
  ignoreCase := fs.ignoreCase
  multiLine := fs.multiLine
  dotAll := fs.dotAll

namespace Pattern

def compile (source letters : List Char) : Except PatternError Pattern :=
  match Flags.ofText? letters with
  | .error c => .error (.duplicateFlag letters c)
  | .ok flags =>
    match Regex.compile flags.mode source with
    | .error e => .error (.regex source e)
    | .ok regex => .ok { source, flags, regex }

/-- The pattern as it is written: `/source/flags`. -/
def toText (p : Pattern) : List Char := ['/'] ++ p.source ++ ['/'] ++ p.flags.toText

def same (p q : Pattern) : Bool := p.source == q.source && p.flags == q.flags

/-- What a template for this pattern depends on. -/
def shape (p : Pattern) : Shape := ⟨p.regex.groupCount, !p.regex.names.isEmpty⟩

end Pattern

/-! ### The matches that are replaced -/

namespace Regex

/-- The first matches, as long as each starts where the one before it stopped; the first has to
start at `last`. -/
def joined (last : Nat) : List Match → List Match
  | [] => []
  | m :: ms => if m.start = last then m :: joined m.stop ms else []

/-- The matches that are replaced under some flags. -/
def usedMatches (flags : Flags) (found : List Match) : List Match :=
  let found := if flags.sticky then joined 0 found else found
  if flags.everywhere then found else found.take 1

end Regex

/-! ### Replacing -/

/-- The part of a text between two places. -/
def slice (text : List Char) (start stop : Nat) : List Char := (text.drop start).take (stop - start)

/-- `text`, of which `done` characters stand before it, with each part from a start to a stop
replaced by a text. -/
def splice (done : Nat) (text : List Char) : List (Nat × Nat × List Char) → List Char
  | [] => text
  | (start, stop, new) :: rest =>
    text.take (start - done) ++ new ++ splice stop (text.drop (stop - done)) rest

namespace Pattern

/-- What a match of this pattern gives to a template. -/
def matched (p : Pattern) (text : List Char) (m : Regex.Match) : Matched where
  whole := slice text m.start m.stop
  before := text.take m.start
  after := text.drop m.stop
  group n := ((m.group n).map fun (a, b) => slice text a b).getD []
  named name :=
    (((p.regex.names.lookup name).bind m.group).map fun (a, b) => slice text a b).getD []

def found (p : Pattern) (text : List Char) : List Regex.Match :=
  Regex.usedMatches p.flags (p.regex.automaton.allMatches text.toArray)

/-- The text with a template in the place of its matches. -/
def replace (p : Pattern) (text template : List Char) : List Char :=
  splice 0 text <| (p.found text).map fun m =>
    (m.start, m.stop, Template.expand p.shape (p.matched text m) template)

end Pattern
end Remap
