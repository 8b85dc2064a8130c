import Remap.Regex.Parser
import Remap.Regex.Meaning
import Remap.Regex.Footprint
import Remap.Regex.Matcher
/-!
# Regular expressions

`Regex.compile` reads an expression and makes an automaton of it. It fails when the expression is
not well formed or when the automaton would be too large.
-/

namespace Remap

open Regex (Automaton Ast Mode SyntaxError)

/-- A regular expression that is ready for matching. -/
structure Regex where
  automaton : Automaton
  /-- The greatest number of a group. -/
  groupCount : Nat
  /-- The names of groups, with their numbers. -/
  names : List (List Char × Nat)

namespace Regex

inductive CompileError
  | malformed (error : SyntaxError)
  | tooLarge
  deriving DecidableEq, Repr

def CompileError.message (source : List Char) : CompileError → List Char
  | malformed e => e.report source
  | tooLarge =>
    ("Compiled regex exceeds size limit of " ++ toString footprintLimit ++ " bytes.").toList

def ofNode (n : Node) : Regex where
  automaton := Automaton.ofNode n
  groupCount := n.lastGroup
  names := n.groupNames

/-- Reads an expression that starts with some flags. -/
def compile (mode : Mode) (source : List Char) : Except CompileError Regex :=
  match (Ast.parse source).bind (Ast.meaning mode) with
  | .error e => .error (.malformed e)
  | .ok n => if n.tooLarge (n.size + 1) then .error .tooLarge else .ok (ofNode n)

end Regex
end Remap
