import Remap.Regex.Error
/-!
# The syntax of regular expressions

`Ast` is an expression as it was written: each part knows its span, and a class in brackets is kept
with its operators.
-/

namespace Remap.Regex

/-- A flag that an expression sets from within. -/
inductive Modifier
  | ignoreCase
  | multiLine
  | dotAll
  | swapGreed
  | unicode
  | crlf
  | verbose
  deriving DecidableEq, Repr

/-- Flags as they are switched on or off, the first written first. -/
abbrev Modifiers := List (Modifier × Bool)

/-- What a list of modifiers says of one flag. -/
def Modifiers.state (ms : Modifiers) (m : Modifier) : Option Bool :=
  (ms.find? fun p => p.1 == m).map Prod.snd

/-- A character; `byte` marks the form `\xHH`, which can stand for a byte. -/
structure Literal where
  span : Span
  char : Char
  byte : Bool := false
  deriving DecidableEq, Repr

/-- Places that match no character. -/
inductive Assertion
  | startLine
  | endLine
  | startText
  | endText
  | wordBoundary
  | notWordBoundary
  | wordStart
  | wordEnd
  | wordStartHalf
  | wordEndHalf
  deriving DecidableEq, Repr

/-- The classes with a letter of their own: `\d`, `\s`, `\w`. -/
inductive Shorthand
  | digit
  | space
  | word
  deriving DecidableEq, Repr

/-- The classes with a name in brackets and colons: `[:alpha:]`. -/
inductive NamedClass
  | alnum
  | alpha
  | ascii
  | blank
  | cntrl
  | digit
  | graph
  | lower
  | print
  | punct
  | space
  | upper
  | word
  | xdigit
  deriving DecidableEq, Repr

def NamedClass.ofName? : String → Option NamedClass
  | "alnum" => some alnum
  | "alpha" => some alpha
  | "ascii" => some ascii
  | "blank" => some blank
  | "cntrl" => some cntrl
  | "digit" => some digit
  | "graph" => some graph
  | "lower" => some lower
  | "print" => some print
  | "punct" => some punct
  | "space" => some space
  | "upper" => some upper
  | "word" => some word
  | "xdigit" => some xdigit
  | _ => none

/-- How a character property is asked for. -/
inductive PropertyQuery
  /-- A name alone: `\pL`, `\p{Greek}`. -/
  | named (name : List Char)
  /-- A name and a value: `\p{script=Greek}`, with `=`, `:` or `!=` between them. -/
  | valued (name value : List Char)
  deriving DecidableEq, Repr

/-- The operators between parts of a class. -/
inductive SetOperator
  | intersection
  | difference
  | symmetricDifference
  deriving DecidableEq, Repr

/-- What stands in a class in brackets. -/
inductive ClassSet
  | empty (span : Span)
  | literal (l : Literal)
  | range (span : Span) (first last : Literal)
  | named (span : Span) (negated : Bool) (kind : NamedClass)
  | shorthand (span : Span) (negated : Bool) (kind : Shorthand)
  | property (span : Span) (negated : Bool) (query : PropertyQuery)
  | bracketed (span : Span) (negated : Bool) (set : ClassSet)
  | union (span : Span) (items : List ClassSet)
  | operation (span : Span) (op : SetOperator) (left right : ClassSet)
  deriving Repr

def ClassSet.span : ClassSet → Span
  | empty s => s
  | literal l => l.span
  | range s _ _ => s
  | named s _ _ => s
  | shorthand s _ _ => s
  | property s _ _ => s
  | bracketed s _ _ => s
  | union s _ => s
  | operation s _ _ _ => s

inductive GroupKind
  /-- A numbered group, which may have a name. -/
  | capture (index : Nat) (name : Option (List Char))
  /-- A group that sets flags for what is inside it. -/
  | plain (modifiers : Modifiers)
  deriving DecidableEq, Repr

/-- A regular expression as it was written. -/
inductive Ast
  | empty (span : Span)
  | modifiers (span : Span) (ms : Modifiers)
  | literal (l : Literal)
  | dot (span : Span)
  | assertion (span : Span) (kind : Assertion)
  | shorthand (span : Span) (negated : Bool) (kind : Shorthand)
  | property (span : Span) (negated : Bool) (query : PropertyQuery)
  | bracketed (span : Span) (negated : Bool) (set : ClassSet)
  | repetition (span : Span) (least : Nat) (most : Option Nat) (greedy : Bool) (part : Ast)
  | group (span : Span) (kind : GroupKind) (part : Ast)
  | alternation (span : Span) (parts : List Ast)
  | concat (span : Span) (parts : List Ast)
  deriving Repr

def Ast.span : Ast → Span
  | empty s => s
  | modifiers s _ => s
  | literal l => l.span
  | dot s => s
  | assertion s _ => s
  | shorthand s _ _ => s
  | property s _ _ => s
  | bracketed s _ _ => s
  | repetition s _ _ _ _ => s
  | group s _ _ => s
  | alternation s _ => s
  | concat s _ => s

/-! ### Nesting

Classes in brackets, repetitions, groups, alternations and sequences count as one level each. -/

mutual
/-- The first part of a class, in reading order, that lies deeper than the limit. -/
def ClassSet.tooDeep (depth : Nat) : ClassSet → Option Span
  | bracketed s _ set => if nestLimit ≤ depth then some s else set.tooDeep (depth + 1)
  | union s items => if nestLimit ≤ depth then some s else ClassSet.anyTooDeep (depth + 1) items
  | operation s _ left right =>
    if nestLimit ≤ depth then some s
    else (left.tooDeep (depth + 1)).or (right.tooDeep (depth + 1))
  | _ => none

/-- The first part that lies too deep in any of some parts of a class. -/
def ClassSet.anyTooDeep (depth : Nat) : List ClassSet → Option Span
  | [] => none
  | c :: cs => (c.tooDeep depth).or (ClassSet.anyTooDeep depth cs)
end

mutual
/-- The first part of an expression, in reading order, that lies deeper than the limit. -/
def Ast.tooDeep (depth : Nat) : Ast → Option Span
  | bracketed s _ set => if nestLimit ≤ depth then some s else set.tooDeep (depth + 1)
  | repetition s _ _ _ part => if nestLimit ≤ depth then some s else part.tooDeep (depth + 1)
  | group s _ part => if nestLimit ≤ depth then some s else part.tooDeep (depth + 1)
  | alternation s parts => if nestLimit ≤ depth then some s else Ast.anyTooDeep (depth + 1) parts
  | concat s parts => if nestLimit ≤ depth then some s else Ast.anyTooDeep (depth + 1) parts
  | _ => none

/-- The first part that lies too deep in any of some expressions. -/
def Ast.anyTooDeep (depth : Nat) : List Ast → Option Span
  | [] => none
  | a :: as => (a.tooDeep depth).or (Ast.anyTooDeep depth as)
end

end Remap.Regex
