import Remap.CharSet.Basic
/-!
# Regular expressions by meaning

`Node` keeps of an expression what matters for matching: all flags are worked in, classes are sets
and groups without a number are gone.
-/

namespace Remap.Regex

/-- How a place lies to the words around it. -/
inductive WordPlace
  /-- A word begins or ends here. -/
  | boundary
  /-- No word begins or ends here. -/
  | inner
  | start
  | stop
  /-- No word character before. -/
  | startHalf
  /-- No word character after. -/
  | stopHalf
  deriving DecidableEq, Repr

/-- A condition on a place of the text. -/
inductive Look
  | textStart
  | textEnd
  /-- A line begins here; with `crlf`, also lines after a carriage return. -/
  | lineStart (crlf : Bool)
  | lineEnd (crlf : Bool)
  /-- Words are made of ASCII characters only, unless `unicode` is set. -/
  | word (place : WordPlace) (unicode : Bool)
  deriving DecidableEq, Repr

/-- A regular expression by its meaning. -/
inductive Node
  | empty
  | char (c : Char)
  | set (s : CharSet)
  | look (l : Look)
  | capture (index : Nat) (name : Option (List Char)) (part : Node)
  | repetition (least : Nat) (most : Option Nat) (greedy : Bool) (part : Node)
  | seq (first second : Node)
  | alt (first second : Node)
  deriving Repr

namespace Node

def concat : List Node → Node
  | [] => empty
  | [n] => n
  | n :: ns => seq n (concat ns)

/-- The parts as alternatives, the first preferred. -/
def alternation : List Node → Node
  | [] => set CharSet.empty
  | [n] => n
  | n :: ns => alt n (alternation ns)

def onlyEmpty : Node → Bool
  | empty => true
  | char _ => false
  | set _ => false
  | look _ => true
  | capture _ _ n => n.onlyEmpty
  | repetition _ _ _ n => n.onlyEmpty
  | seq a b => a.onlyEmpty && b.onlyEmpty
  | alt a b => a.onlyEmpty && b.onlyEmpty

/-- Whether the empty text can match, conditions on places left out of account. -/
def maybeEmpty : Node → Bool
  | empty => true
  | char _ => false
  | set _ => false
  | look _ => true
  | capture _ _ n => n.maybeEmpty
  | repetition least _ _ n => least == 0 || n.maybeEmpty
  | seq a b => a.maybeEmpty && b.maybeEmpty
  | alt a b => a.maybeEmpty || b.maybeEmpty

/-- The repetition of a part. Repeating what only the empty text matches comes to once at most; no
repetition at all is empty, and one is the part itself. -/
def repeated (least : Nat) (most : Option Nat) (greedy : Bool) (part : Node) : Node :=
  let least := if part.onlyEmpty then min least 1 else least
  let most := if part.onlyEmpty then some (min (most.getD 1) 1) else most
  if least = 0 ∧ most = some 0 then empty
  else if least = 1 ∧ most = some 1 then part
  else repetition least most greedy part

/-- The greatest number of a group, zero if there is none. -/
def lastGroup : Node → Nat
  | capture i _ n => max i n.lastGroup
  | repetition _ _ _ n => n.lastGroup
  | seq a b => max a.lastGroup b.lastGroup
  | alt a b => max a.lastGroup b.lastGroup
  | _ => 0

def groupNames : Node → List (List Char × Nat)
  | capture i name n =>
    match name with
    | some s => (s, i) :: n.groupNames
    | none => n.groupNames
  | repetition _ _ _ n => n.groupNames
  | seq a b => a.groupNames ++ b.groupNames
  | alt a b => a.groupNames ++ b.groupNames
  | _ => []

end Node
end Remap.Regex
