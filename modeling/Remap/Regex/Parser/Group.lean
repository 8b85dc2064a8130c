import Remap.Regex.Parser.Escape
import Remap.Unicode.Property
/-!
# Openings of groups, and repetitions

What stands after an opening parenthesis says whether the group is numbered, has a name or sets
flags. Counted repetitions are written `{n}`, `{n,}` or `{n,m}`.
-/

namespace Remap.Regex

/-! ### Flags -/

def Modifier.ofLetter? : Char → Option Modifier
  | 'i' => some ignoreCase
  | 'm' => some multiLine
  | 's' => some dotAll
  | 'U' => some swapGreed
  | 'u' => some unicode
  | 'R' => some crlf
  | 'x' => some verbose
  | _ => none

/-- Flags that have been read: each with its place, and the place of the minus sign. -/
structure FlagsRead where
  flags : List (Modifier × Bool × Span) := []
  minus : Option Span := none
  /-- Whether the minus sign came last. -/
  dangling : Bool := false

/-- Reads flags up to a colon or a closing parenthesis. -/
def readFlags : (fuel : Nat) → FlagsRead → Cursor → Reading (Modifiers × Cursor)
  | 0, _, c => fault .flagUnfinished c.here
  | fuel + 1, r, c =>
    match c.peek with
    | none => fault .flagUnfinished c.here
    | some x =>
      if x = ':' ∨ x = ')' then
        match r.minus with
        | some span =>
          -- a minus has to have a letter behind it
          if r.dangling then fault .flagDanglingNegation span
          else .ok (r.flags.map fun (m, on, _) => (m, on), c)
        | none => .ok (r.flags.map fun (m, on, _) => (m, on), c)
      else do
        let r ←
          if x = '-' then
            match r.minus with
            | some span =>
              .error { fault := .flagRepeatedNegation, span := c.spanChar, earlier := some span }
            | none => .ok { r with minus := some c.spanChar, dangling := true }
          else
            match Modifier.ofLetter? x with
            | none => fault .flagUnrecognized c.spanChar
            | some m =>
              match r.flags.find? fun f => f.1 == m with
              | some (_, _, span) =>
                .error { fault := .flagDuplicate, span := c.spanChar, earlier := some span }
              | none =>
                .ok { r with
                  flags := r.flags ++ [(m, r.minus.isNone, c.spanChar)], dangling := false }
        readFlags fuel r c.advance

/-! ### Names -/

/-- Characters that begin the name of a group. -/
def isNameStart (c : Char) : Bool := c == '_' || Unicode.letterSet.contains c

/-- Characters that go on with the name of a group. -/
def isNameChar (c : Char) : Bool :=
  c == '_' || c == '.' || c == '[' || c == ']' || Unicode.letterOrNumberSet.contains c

/-- Reads the rest of a name up to `>`. -/
def readNameRest (first : Bool) : List Char → Cursor → Reading (List Char × Cursor)
  | [], c => fault .groupNameUnclosed c.here
  | x :: xs, c =>
    if x = '>' then .ok ([], c)
    else if if first then isNameStart x else isNameChar x then do
      let (name, d) ← readNameRest false xs c.advance
      return (x :: name, d)
    else fault .groupNameInvalid c.spanChar

/-- The names of groups that have been read, with their places. -/
abbrev NamesRead := List (List Char × Span)

/-- Reads a name and the `>` after it; `names` are those in use. -/
def readName (names : NamesRead) (c : Cursor) : Reading ((List Char × Span) × Cursor) := do
  let (name, d) ← readNameRest true c.rest c
  let span : Span := ⟨c.pos, d.pos⟩
  if name.isEmpty then fault .groupNameEmpty ⟨c.pos, c.pos⟩
  else
    match names.find? fun n => n.1 == name with
    | some (_, old) => .error { fault := .groupNameDuplicate, span, earlier := some old }
    | none => return ((name, span), d.advance)

/-! ### Openings -/

/-- What an opening parenthesis begins. -/
inductive Opening
  /-- Flags for what follows, without a group: `(?i)`. -/
  | directive (span : Span) (ms : Modifiers)
  | numbered
  | withName (name : List Char) (span : Span)
  | plain (ms : Modifiers)

/-- The signs of look-around, which is not supported. -/
def lookAroundSigns : List (List Char) :=
  [['?', '='], ['?', '!'], ['?', '<', '='], ['?', '<', '!']]

/-- Reads an opening parenthesis, at which the cursor stands, and the signs that belong to it. -/
def readOpening (names : NamesRead) (c : Cursor) : Reading (Opening × Cursor) :=
  let d := c.next
  match lookAroundSigns.find? fun w => d.startsWith w with
  | some w => fault .lookAround ⟨c.pos, (d.advanceBy w.length).pos⟩
  | none =>
    if d.startsWith ['?', 'P', '<'] then do
      let ((name, span), e) ← readName names (d.advanceBy 3)
      return (.withName name span, e)
    else if d.startsWith ['?', '<'] then do
      let ((name, span), e) ← readName names (d.advanceBy 2)
      return (.withName name span, e)
    else if d.peek = some '?' then
      let e := d.advance
      if e.atEnd then fault .groupUnclosed c.spanChar
      else do
        let (ms, f) ← readFlags (e.rest.length + 1) {} e
        let stop := f.advance
        if f.peek = some ')' then
          -- `(?)` is read as a question mark that has nothing to repeat
          if ms.isEmpty then fault .repetitionMissing d.here
          else return (.directive ⟨c.pos, stop.pos⟩ ms, stop)
        else return (.plain ms, stop)
    else .ok (.numbered, d)

/-! ### Repetitions -/

def countLimit : Nat := 4294967295

def decimalValue (digits : List Char) : Nat :=
  digits.foldl (fun n d => n * 10 + (d.toNat - 48)) 0

/-- Reads a decimal number with blanks around it: its value or what is wrong with it, and the
cursor behind it. -/
def readDecimal (c : Cursor) : Except SyntaxError Nat × Cursor :=
  let start := c.dropBlanks
  let (digits, stop) := start.takeNextWhile Char.isDigit
  let span : Span := ⟨start.pos, stop.pos⟩
  let value :=
    if digits.isEmpty then fault .countEmpty span
    else if countLimit < decimalValue digits then fault .decimalInvalid span
    else .ok (decimalValue digits)
  (value, stop.dropBlanks)

/-- How often something is repeated. -/
structure Count where
  least : Nat
  most : Option Nat

/-- Reads a count in braces, the cursor standing at the first of them. -/
def readCount (c : Cursor) : Reading (Count × Cursor) := do
  let unclosed (d : Cursor) : Reading (Count × Cursor) := fault .countUnclosed ⟨c.pos, d.pos⟩
  let d := c.next
  if d.atEnd then unclosed d
  else
    let (least, e) := readDecimal d
    match e.peek with
    | none => unclosed e
    | some ',' =>
      let f := e.next
      match f.peek with
      | none => unclosed f
      | some '}' => return (⟨← least, none⟩, f)
      | some _ =>
        let n ← least
        let (most, g) := readDecimal f
        return (⟨n, some (← most)⟩, g)
    | some _ =>
      let n ← least
      return (⟨n, some n⟩, e)

/-- The greedy form, or the lazy one if a question mark is at the cursor. -/
def readGreed (c : Cursor) : Bool × Cursor :=
  if c.peek = some '?' then (false, c.advance) else (true, c)

/-- Reads the sign of a repetition, at which the cursor stands: the count, whether it is greedy,
and the cursor behind it. -/
def readRepetition (sign : Char) (c : Cursor) : Reading ((Count × Bool) × Cursor) :=
  match sign with
  | '?' => let (greedy, d) := readGreed c.advance; .ok ((⟨0, some 1⟩, greedy), d)
  | '*' => let (greedy, d) := readGreed c.advance; .ok ((⟨0, none⟩, greedy), d)
  | '+' => let (greedy, d) := readGreed c.advance; .ok ((⟨1, none⟩, greedy), d)
  | _ => do
    let (count, d) ← readCount c
    if d.peek ≠ some '}' then fault .countUnclosed ⟨c.pos, d.pos⟩
    else
      let (greedy, e) := readGreed d.next
      match count.most with
      | some m =>
        if m < count.least then fault .countRangeInvalid ⟨c.pos, e.pos⟩
        else return ((count, greedy), e)
      | none => return ((count, greedy), e)

end Remap.Regex
