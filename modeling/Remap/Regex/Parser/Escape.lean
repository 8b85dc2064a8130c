import Remap.Regex.Cursor
import Remap.Unicode.Table
/-!
# Single items of an expression

What stands for one character, one class or one place: a character itself, or a backslash with what
follows it. Outside of brackets and inside them the items are read alike (`readEscape`).
-/

namespace Remap.Regex

/-- What a reader gives: a result, with the cursor behind it, or an error. -/
abbrev Reading := Except SyntaxError

/-- The error of a fault at a span. -/
def fault {α : Type} (f : SyntaxFault) (span : Span) : Reading α :=
  .error { fault := f, span }

inductive Item
  | literal (l : Literal)
  | assertion (span : Span) (kind : Assertion)
  | dot (span : Span)
  | shorthand (span : Span) (negated : Bool) (kind : Shorthand)
  | property (span : Span) (negated : Bool) (query : PropertyQuery)
  deriving Repr

def Item.toAst : Item → Ast
  | literal l => .literal l
  | assertion s k => .assertion s k
  | dot s => .dot s
  | shorthand s n k => .shorthand s n k
  | property s n q => .property s n q

def Item.span : Item → Span
  | literal l => l.span
  | assertion s _ => s
  | dot s => s
  | shorthand s _ _ => s
  | property s _ _ => s

/-- Characters with a meaning of their own, which a backslash takes from them. -/
def isMeta (c : Char) : Bool := "\\.+*?()|[]{}^$#&-~".toList.contains c

/-- Characters after a backslash that stand for themselves. -/
def isEscapable (c : Char) : Bool :=
  isMeta c || (c.toNat < 0x80 && !c.isAlphanum && c != '<' && c != '>')

/-- The character of a number, if it has one. -/
def charOfCode? (n : Nat) : Option Char :=
  if n.isValidChar then some (Char.ofNat n) else none

def hexValue (digits : List Char) : Nat :=
  digits.foldl (fun n d => n * 16 + (Unicode.hexDigit? d).getD 0) 0

/-- Reads exactly `n` hexadecimal digits, `v` being the value of those before them. -/
def readHexDigits : Nat → Nat → Cursor → Reading (Nat × Cursor)
  | 0, v, c => .ok (v, c)
  | n + 1, v, c =>
    match c.peek with
    | none => fault .escapeUnfinished c.here
    | some x =>
      match Unicode.hexDigit? x with
      | none => fault .hexDigitInvalid c.spanChar
      | some d => readHexDigits n (v * 16 + d) c.next

/-- Reads `{HH…}`, the cursor standing at the brace. -/
def readHexBraces (start : Position) (c : Cursor) : Reading (Literal × Cursor) :=
  let first := c.advance.pos
  let (digits, d) := c.next.takeNextWhile fun x => (Unicode.hexDigit? x).isSome
  match d.peek with
  | none => fault .escapeUnfinished ⟨c.pos, d.pos⟩
  | some '}' =>
    let stop := d.next
    if digits.isEmpty then fault .hexEmpty ⟨c.pos, stop.pos⟩
    else
      match charOfCode? (hexValue digits) with
      | none => fault .hexInvalid ⟨first, d.pos⟩
      | some x => .ok ({ span := ⟨start, stop.pos⟩, char := x }, stop)
  | some _ => fault .hexDigitInvalid d.spanChar

/-- Reads what follows `\x`, `\u` or `\U`, the cursor standing at that letter: as many digits as
the letter asks for, or any number of them in braces. -/
def readHex (start : Position) (letter : Char) (c : Cursor) : Reading (Literal × Cursor) :=
  let d := c.next
  match d.peek with
  | none => fault .escapeUnfinished d.here
  | some '{' => readHexBraces start d
  | some _ => do
    let count := if letter = 'x' then 2 else if letter = 'u' then 4 else 8
    let (v, e) ← readHexDigits count 0 d
    match charOfCode? v with
    | none => fault .hexInvalid ⟨d.pos, e.pos⟩
    | some x => return ({ span := ⟨start, e.pos⟩, char := x, byte := letter = 'x' }, e)

/-- What a text in braces asks for: a name, or a name and a value. -/
def PropertyQuery.ofText (text : List Char) : PropertyQuery :=
  match Text.cutFirst ['!', '='] text, Text.cutFirst [':'] text, Text.cutFirst ['='] text with
  | some (name, value), _, _ => .valued name value
  | none, some (name, value), _ => .valued name value
  | none, none, some (name, value) => .valued name value
  | none, none, none => .named text

/-- Reads what follows `\p` or `\P`, the cursor standing at that letter: one letter, or a text in
braces. -/
def readProperty (start : Position) (negated : Bool) (c : Cursor) : Reading (Item × Cursor) :=
  let d := c.next
  match d.peek with
  | none => fault .escapeUnfinished d.here
  | some '{' =>
    let (text, e) := d.next.takeNextWhile (· != '}')
    if e.atEnd then fault .escapeUnfinished e.here
    else
      let stop := e.advance
      .ok (.property ⟨start, stop.pos⟩ negated (.ofText text), stop)
  | some '\\' => fault .propertyLetterInvalid d.spanChar
  | some x =>
    let stop := d.next
    .ok (.property ⟨start, stop.pos⟩ negated (.named [x]), stop)

/-- Characters in the names of the special word boundaries. -/
def isBoundaryNameChar (c : Char) : Bool := c.isAlpha || c == '-'

def boundaryOfName? : String → Option Assertion
  | "start" => some .wordStart
  | "end" => some .wordEnd
  | "start-half" => some .wordStartHalf
  | "end-half" => some .wordEndHalf
  | _ => none

/-- Reads `{name}` after a `\b` that begins at `start`, the cursor standing at the brace. A brace
that no name follows is left alone. -/
def readBoundaryName (start : Position) (c : Cursor) : Reading ((Option Assertion) × Cursor) :=
  let d := c.next
  match d.peek with
  | none => fault .wordBoundaryOrCountUnfinished ⟨start, d.pos⟩
  | some x =>
    if isBoundaryNameChar x then
      let (name, e) := d.takeNextWhile isBoundaryNameChar
      if e.peek = some '}' then
        match boundaryOfName? (String.ofList name) with
        | some kind => .ok (some kind, e.advance)
        | none => fault .wordBoundaryUnrecognized ⟨d.pos, e.pos⟩
      else fault .wordBoundaryUnclosed ⟨c.pos, e.pos⟩
    else .ok (none, c)

/-- Reads what follows a `\b` that spans `span`. -/
def readWordBoundary (span : Span) (c : Cursor) : Reading (Item × Cursor) :=
  if c.peek = some '{' then do
    let (kind, d) ← readBoundaryName span.start c
    match kind with
    | some k => return (.assertion ⟨span.start, d.pos⟩ k, d)
    | none => return (.assertion span .wordBoundary, d)
  else .ok (.assertion span .wordBoundary, c)

def Shorthand.ofLetter? : Char → Option Shorthand
  | 'd' => some digit
  | 's' => some space
  | 'w' => some word
  | _ => none

/-- The characters that letters stand for after a backslash. -/
def controlOf? : Char → Option Char
  | 'a' => some '\x07'
  | 'f' => some '\x0c'
  | 't' => some '\t'
  | 'n' => some '\n'
  | 'r' => some '\r'
  | 'v' => some '\x0b'
  | _ => none

/-- The places that letters and angles stand for after a backslash, `\b` apart. -/
def placeOf? : Char → Option Assertion
  | 'A' => some .startText
  | 'z' => some .endText
  | 'B' => some .notWordBoundary
  | '<' => some .wordStart
  | '>' => some .wordEnd
  | _ => none

/-- Reads a backslash, at which the cursor stands, and what belongs to it. -/
def readEscape (c : Cursor) : Reading (Item × Cursor) :=
  let start := c.pos
  let d := c.advance
  match d.peek with
  | none => fault .escapeUnfinished ⟨start, d.pos⟩
  | some x =>
    let stop := d.advance
    let span : Span := ⟨start, stop.pos⟩
    if x.isDigit then fault .backreference span
    else if x = 'x' ∨ x = 'u' ∨ x = 'U' then do
      let (l, e) ← readHex start x d
      return (.literal l, e)
    else if x = 'p' ∨ x = 'P' then readProperty start (x = 'P') d
    else if x = 'b' then readWordBoundary span stop
    else
      match Shorthand.ofLetter? x.toLower, controlOf? x, placeOf? x with
      | some kind, _, _ => .ok (.shorthand span x.isUpper kind, stop)
      | none, some y, _ => .ok (.literal { span, char := y }, stop)
      | none, none, some kind => .ok (.assertion span kind, stop)
      | none, none, none =>
        if isEscapable x then .ok (.literal { span, char := x }, stop)
        else fault .escapeUnrecognized span

/-- Reads one item outside of brackets. -/
def readItem (x : Char) (c : Cursor) : Reading (Item × Cursor) :=
  match x with
  | '\\' => readEscape c
  | '.' => .ok (.dot c.spanChar, c.advance)
  | '^' => .ok (.assertion c.spanChar .startLine, c.advance)
  | '$' => .ok (.assertion c.spanChar .endLine, c.advance)
  | _ => .ok (.literal { span := c.spanChar, char := x }, c.advance)

end Remap.Regex
