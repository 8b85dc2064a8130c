import Remap.Text.Line
/-!
# Errors in regular expressions

A `SyntaxError` holds what is wrong (`SyntaxFault`) and where: a span of the expression and, for
things that come twice, the span of the earlier one. `SyntaxError.report` shows the expression with
carets under the spans.
-/

namespace Remap.Regex

/-- A place in an expression: how many characters stand before it, its line and its column. -/
structure Position where
  offset : Nat := 0
  line : Nat := 1
  column : Nat := 1
  deriving DecidableEq, Repr

/-- The place after the character `c` at `p`. -/
def Position.after (p : Position) (c : Char) : Position :=
  if c = '\n' then ⟨p.offset + 1, p.line + 1, 1⟩ else ⟨p.offset + 1, p.line, p.column + 1⟩

/-- A part of an expression, from one place up to another. -/
structure Span where
  start : Position := {}
  stop : Position := {}
  deriving DecidableEq, Repr

inductive SyntaxFault
  | classEscapeInvalid
  | classRangeInvalid
  | classRangeBoundary
  | classUnclosed
  | decimalInvalid
  | hexEmpty
  | hexInvalid
  | hexDigitInvalid
  | escapeUnfinished
  | escapeUnrecognized
  | flagDanglingNegation
  | flagDuplicate
  | flagRepeatedNegation
  | flagUnfinished
  | flagUnrecognized
  | groupNameDuplicate
  | groupNameEmpty
  | groupNameInvalid
  | groupNameUnclosed
  | groupUnclosed
  | groupUnopened
  | nestedTooDeep
  | countRangeInvalid
  | countEmpty
  | countUnclosed
  | repetitionMissing
  | wordBoundaryUnclosed
  | wordBoundaryUnrecognized
  | wordBoundaryOrCountUnfinished
  | propertyLetterInvalid
  | backreference
  | lookAround
  | unicodeNotAllowed
  | invalidText
  | propertyNotFound
  | propertyValueNotFound
  deriving DecidableEq, Repr

/-- How deep parts of an expression may be nested. -/
def nestLimit : Nat := 250

def SyntaxFault.message : SyntaxFault → String
  | classEscapeInvalid => "invalid escape sequence found in character class"
  | classRangeInvalid => "invalid character class range, the start must be <= the end"
  | classRangeBoundary => "invalid range boundary, must be a literal"
  | classUnclosed => "unclosed character class"
  | decimalInvalid => "decimal literal invalid"
  | hexEmpty => "hexadecimal literal empty"
  | hexInvalid => "hexadecimal literal is not a Unicode scalar value"
  | hexDigitInvalid => "invalid hexadecimal digit"
  | escapeUnfinished => "incomplete escape sequence, reached end of pattern prematurely"
  | escapeUnrecognized => "unrecognized escape sequence"
  | flagDanglingNegation => "dangling flag negation operator"
  | flagDuplicate => "duplicate flag"
  | flagRepeatedNegation => "flag negation operator repeated"
  | flagUnfinished => "expected flag but got end of regex"
  | flagUnrecognized => "unrecognized flag"
  | groupNameDuplicate => "duplicate capture group name"
  | groupNameEmpty => "empty capture group name"
  | groupNameInvalid => "invalid capture group character"
  | groupNameUnclosed => "unclosed capture group name"
  | groupUnclosed => "unclosed group"
  | groupUnopened => "unopened group"
  | nestedTooDeep =>
    "exceed the maximum number of nested parentheses/brackets (" ++ toString nestLimit ++ ")"
  | countRangeInvalid => "invalid repetition count range, the start must be <= the end"
  | countEmpty => "repetition quantifier expects a valid decimal"
  | countUnclosed => "unclosed counted repetition"
  | repetitionMissing => "repetition operator missing expression"
  | wordBoundaryUnclosed =>
    "special word boundary assertion is either unclosed or contains an invalid character"
  | wordBoundaryUnrecognized =>
    "unrecognized special word boundary assertion, valid choices are: start, end, start-half or " ++
      "end-half"
  | wordBoundaryOrCountUnfinished =>
    "found either the beginning of a special word boundary or a bounded repetition on a \\b " ++
      "with an opening brace, but no closing brace"
  | propertyLetterInvalid => "invalid Unicode character class"
  | backreference => "backreferences are not supported"
  | lookAround => "look-around, including look-ahead and look-behind, is not supported"
  | unicodeNotAllowed => "Unicode not allowed here"
  | invalidText => "pattern can match invalid UTF-8"
  | propertyNotFound => "Unicode property not found"
  | propertyValueNotFound => "Unicode property value not found"

/-- A fault, where it is, and where the earlier of two equal things is. -/
structure SyntaxError where
  fault : SyntaxFault
  span : Span
  earlier : Option Span := none
  deriving DecidableEq, Repr

namespace Report

def oneLine (s : Span) : Bool := s.start.line == s.stop.line

/-- Whether `s` comes before `t`, or the two are the same. -/
def inOrder (s t : Span) : Bool :=
  s.start.offset < t.start.offset ||
    (s.start.offset == t.start.offset && s.stop.offset ≤ t.stop.offset)

/-- Carets under the given spans of one line, of which `column` columns are written. -/
def carets (column : Nat) : List Span → List Char
  | [] => []
  | s :: rest =>
    let gap := s.start.column - 1 - column
    let marks := max 1 (s.stop.column - s.start.column)
    List.replicate gap ' ' ++ List.replicate marks '^' ++ carets (column + gap + marks) rest

/-- The lines from the number `n` on, each after its margin and with carets under its spans. -/
def annotate (margin : Nat → List Char) (spans : List Span) (n : Nat) :
    List (List Char) → List Char
  | [] => []
  | line :: rest =>
    let here := spans.filter fun s => s.start.line == n
    let marks :=
      if here.isEmpty then []
      else List.replicate (margin n).length ' ' ++ carets 0 here ++ ['\n']
    margin n ++ line ++ ['\n'] ++ marks ++ annotate margin spans (n + 1) rest

/-- A number, moved to the right of a field. -/
def padNumber (width n : Nat) : List Char :=
  let digits := (toString n).toList
  List.replicate (width - digits.length) ' ' ++ digits

/-- The place of a span of several lines, in words. -/
def extent (s : Span) : String :=
  "on line " ++ toString s.start.line ++ " (column " ++ toString s.start.column ++
    ") through line " ++ toString s.stop.line ++ " (column " ++ toString (s.stop.column - 1) ++ ")"

end Report

open Report in
/-- The expression with carets under the spans, and the wording of the fault. An expression of
several lines stands between rules, with its lines numbered; a span of several lines is described
in words. -/
def SyntaxError.report (e : SyntaxError) (source : List Char) : List Char :=
  let lines := Text.lines source
  let count := lines.length + if source.getLast? = some '\n' then 1 else 0
  let spans :=
    match e.earlier with
    | none => [e.span]
    | some t => if inOrder e.span t then [e.span, t] else [t, e.span]
  let margin (n : Nat) : List Char :=
    if count ≤ 1 then List.replicate 4 ' '
    else padNumber (toString count).length n ++ [':', ' ']
  let shown := annotate margin (spans.filter oneLine) 1 lines
  let heading := "regex parse error:\n".toList
  let verdict := "error: ".toList ++ e.fault.message.toList
  if '\n' ∈ source then
    let rule := List.replicate 79 '~' ++ ['\n']
    let notes := (spans.filter fun s => !oneLine s).flatMap fun s => (extent s).toList ++ ['\n']
    heading ++ rule ++ shown ++ rule ++ notes ++ verdict
  else heading ++ shown ++ verdict

end Remap.Regex
