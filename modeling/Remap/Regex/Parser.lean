import Remap.Regex.Parser.Bracket
import Remap.Regex.Parser.Group
/-!
# Reading regular expressions

The reader goes through an expression from the left and keeps, on a stack, the groups that are open
and the alternatives that are finished. `Ast.parse` is the whole reader.
-/

namespace Remap.Regex

/-- Parts that stand one after the other, the last one first. -/
structure Sequence where
  start : Position
  parts : List Ast := []

/-- The sequence, which ends at `stop`, as one expression. -/
def Sequence.toAst (s : Sequence) (stop : Position) : Ast :=
  match s.parts with
  | [] => .empty ⟨s.start, stop⟩
  | [a] => a
  | parts => .concat ⟨s.start, stop⟩ parts.reverse

def Sequence.push (s : Sequence) (a : Ast) : Sequence := { s with parts := a :: s.parts }

/-- What the reader comes back to when the present sequence is finished. -/
inductive GroupFrame
  /-- A group was opened at `span` after the parts `before`; `verbose` is to be restored. -/
  | group (before : Sequence) (span : Span) (kind : GroupKind) (verbose : Bool)
  /-- Alternatives that are finished, the last one first. -/
  | alternatives (start : Position) (done : List Ast)

structure Reader where
  cursor : Cursor
  stack : List GroupFrame := []
  sequence : Sequence
  /-- How many numbered groups have been opened. -/
  groups : Nat := 0
  names : NamesRead := []

namespace Reader

/-- The present sequence, together with the alternatives before it, as one expression. -/
def close (r : Reader) : Ast × List GroupFrame :=
  let stop := r.cursor.pos
  let last := r.sequence.toAst stop
  match r.stack with
  | .alternatives start done :: rest =>
    (.alternation ⟨start, stop⟩ (last :: done).reverse, rest)
  | stack => (last, stack)

/-- Reads a bar: the present sequence becomes an alternative. -/
def bar (r : Reader) : Reader :=
  let stop := r.cursor.pos
  let last := r.sequence.toAst stop
  let cursor := r.cursor.advance
  let stack :=
    match r.stack with
    | .alternatives start done :: rest => .alternatives start (last :: done) :: rest
    | stack => .alternatives r.sequence.start [last] :: stack
  { r with cursor, stack, sequence := { start := cursor.pos } }

/-- Opens a group; what follows begins with an empty sequence. -/
def enter (r : Reader) (kind : GroupKind) (verbose : Bool) (c : Cursor) : Reader :=
  { r with
    cursor := { c with verbose }
    stack := .group r.sequence r.cursor.spanChar kind c.verbose :: r.stack
    sequence := { start := c.pos } }

def opening (r : Reader) : Reading Reader := do
  let (o, c) ← readOpening r.names r.cursor
  match o with
  | .directive span ms =>
    let verbose := (ms.state .verbose).getD c.verbose
    return { r with
      cursor := { c with verbose }, sequence := r.sequence.push (.modifiers span ms) }
  | .plain ms => return r.enter (.plain ms) ((ms.state .verbose).getD c.verbose) c
  | .numbered =>
    let n := r.groups + 1
    return { r with groups := n }.enter (.capture n none) c.verbose c
  | .withName name span =>
    let n := r.groups + 1
    return { r with groups := n, names := (name, span) :: r.names }.enter
      (.capture n (some name)) c.verbose c

def closing (r : Reader) : Reading Reader :=
  match r.close with
  | (inner, .group before span kind verbose :: rest) =>
    let c := r.cursor.advance
    let group := Ast.group ⟨span.start, c.pos⟩ kind inner
    .ok { r with cursor := { c with verbose }, stack := rest, sequence := before.push group }
  | _ => fault .groupUnopened r.cursor.spanChar

/-- Reads the sign of a repetition, which repeats the part before it. -/
def repeated (r : Reader) (sign : Char) : Reading Reader :=
  let c := r.cursor
  match r.sequence.parts with
  | [] | .empty _ :: _ | .modifiers _ _ :: _ => fault .repetitionMissing c.here
  | part :: parts => do
    let ((count, greedy), d) ← readRepetition sign c
    let whole := Ast.repetition ⟨part.span.start, d.pos⟩ count.least count.most greedy part
    return { r with cursor := d, sequence := { r.sequence with parts := whole :: parts } }

/-- Reads one part, the cursor standing at `x`. -/
def step (x : Char) (r : Reader) : Reading Reader :=
  match x with
  | '(' => r.opening
  | ')' => r.closing
  | '|' => .ok r.bar
  | '[' => do
    let (a, c) ← readClass r.cursor
    return { r with cursor := c, sequence := r.sequence.push a }
  | '?' | '*' | '+' | '{' => r.repeated x
  | _ => do
    let (item, c) ← readItem x r.cursor
    return { r with cursor := c, sequence := r.sequence.push item.toAst }

/-- Ends the expression: every group has to be closed. -/
def finish (r : Reader) : Reading Ast :=
  match r.close with
  | (whole, []) => .ok whole
  | (_, .group _ span _ _ :: _) => fault .groupUnclosed span
  | (whole, .alternatives _ _ :: _) => .ok whole

/-- Reads to the end. Each round reads a character at least, so that `fuel` rounds are enough. -/
def run : (fuel : Nat) → Reader → Reading Ast
  | 0, r => r.finish
  | fuel + 1, r =>
    let r := { r with cursor := r.cursor.skip }
    match r.cursor.peek with
    | none => r.finish
    | some x =>
      match r.step x with
      | .ok r => run fuel r
      | .error e => .error e

end Reader

def Ast.parse (source : List Char) : Except SyntaxError Ast := do
  let cursor : Cursor := { rest := source }
  let whole ← Reader.run (source.length + 1) { cursor, sequence := { start := cursor.pos } }
  match whole.tooDeep 0 with
  | some span => fault .nestedTooDeep span
  | none => return whole

end Remap.Regex
