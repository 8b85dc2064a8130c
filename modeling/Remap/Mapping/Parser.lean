import Remap.Mapping.Rule
import Remap.Text.Blank
import Remap.Text.Line
/-!
# Mapping texts

A mapping text has a rule on each line: a token, an arrow, a replacement, and perhaps a comment
after them. Blank lines and lines that begin with the comment character are passed over. A line
without an arrow, or with nothing before it, makes the whole text invalid.

`readLine` reads one line, and `Mapping.read` a whole text: it gives the rules up to the first
invalid line, each with its line number and perhaps a rejected pattern.
-/

namespace Remap

/-- The signs of a mapping text. -/
structure MappingSyntax where
  /-- Parts the token from the replacement. -/
  arrow : List Char := [' ', '=', '>']
  /-- Begins a comment after a rule. -/
  inlineComment : List Char := [' ', '#', ' ']
  /-- Begins a line that is a comment. -/
  lineComment : Char := '#'
  /-- Whether `\s` stands for a space in replacements. -/
  unescapeSpaces : Bool := true
  deriving DecidableEq, Repr

/-- A line that is no rule, with its number. -/
structure InvalidLine where
  line : Nat
  text : List Char
  deriving DecidableEq, Repr

def InvalidLine.message (e : InvalidLine) : List Char :=
  "Invalid mapping at line ".toList ++ (toString e.line).toList ++ [':', ' '] ++ e.text

/-- In a replacement, `\s` is a space and `\\s` is the text `\s`. -/
def unescapeSpaces : List Char → List Char
  | '\\' :: '\\' :: 's' :: cs => '\\' :: 's' :: unescapeSpaces cs
  | '\\' :: 's' :: cs => ' ' :: unescapeSpaces cs
  | c :: cs => c :: unescapeSpaces cs
  | [] => []

namespace Mapping

inductive Line
  /-- A blank line or a comment. -/
  | passed
  | invalid
  /-- A token and a replacement, as they stand in the line without the blanks around them. -/
  | rule (token replacement : List Char)
  deriving DecidableEq, Repr

/-- Takes a line apart. -/
def Line.ofText (s : MappingSyntax) (line : List Char) : Line :=
  match Text.trim line with
  | [] => passed
  | c :: _ =>
    if c = s.lineComment then passed
    else
      match Text.cutFirst s.arrow (Text.before s.inlineComment line) with
      | none => invalid
      | some (left, right) =>
        match Text.trim left with
        | [] => invalid
        | token => rule token (Text.trim right)

/-- A rule with the number of its line, and why its token is no pattern if it looks like one. -/
structure Entry where
  line : Nat
  rule : Rule
  rejection : Option Rejection

def Entry.make (s : MappingSyntax) (line : Nat) (token replacement : List Char) : Entry :=
  let (matcher, rejection) := Matcher.ofToken token
  let replacement := if s.unescapeSpaces then unescapeSpaces replacement else replacement
  { line, rule := { matcher, replacement }, rejection }

/-- The entries of a mapping text up to the first invalid line, if there is one. -/
structure Outcome where
  entries : List Entry := []
  invalid : Option InvalidLine := none

/-- Reads lines, the first of which has the number `n`. -/
def readLines (s : MappingSyntax) (n : Nat) : List (List Char) → Outcome
  | [] => {}
  | line :: rest =>
    match Line.ofText s line with
    | .passed => readLines s (n + 1) rest
    | .invalid => { invalid := some ⟨n, line⟩ }
    | .rule token replacement =>
      let o := readLines s (n + 1) rest
      { o with entries := .make s n token replacement :: o.entries }

def read (s : MappingSyntax) (text : List Char) : Outcome := readLines s 1 (Text.lines text)

/-- The rejected patterns, in the order of their lines. -/
def Outcome.rejections (o : Outcome) : List Rejection := o.entries.filterMap Entry.rejection

/-- The rules, or the first invalid line. -/
def Outcome.rules (o : Outcome) : Except InvalidLine RuleSet :=
  match o.invalid with
  | some e => .error e
  | none => .ok (o.entries.map Entry.rule)

/-- The rules of a mapping text in the default syntax. -/
def parse (text : List Char) : Except InvalidLine RuleSet := (read {} text).rules

end Mapping

/-- The text after the rules of a mapping text. -/
def computeOutput (text mapping : List Char) : Except InvalidLine (List Char) :=
  (Mapping.parse mapping).map fun rules => rules.applyAll text

end Remap
