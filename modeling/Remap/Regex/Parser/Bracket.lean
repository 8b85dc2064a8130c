import Remap.Regex.Parser.Escape
/-!
# Classes in brackets

A class in brackets holds characters, ranges, other classes and nested brackets, with the operators
`&&`, `--` and `~~` between them. All operators bind alike, from the left, and more loosely than
the parts that stand side by side.
-/

namespace Remap.Regex

/-- The parts that stand side by side, the last one first. -/
structure Parts where
  span : Span
  items : List ClassSet := []

def Parts.push (p : Parts) (item : ClassSet) : Parts where
  span := ⟨if p.items.isEmpty then item.span.start else p.span.start, item.span.stop⟩
  items := item :: p.items

/-- The parts as one. -/
def Parts.toSet (p : Parts) : ClassSet :=
  match p.items with
  | [] => .empty p.span
  | [item] => item
  | items => .union p.span items.reverse

/-- What the reader comes back to when the present part of a class is finished. -/
inductive ClassFrame
  /-- A bracket was opened among the parts `outer`; `span` is what opens it. -/
  | opened (outer : Parts) (span : Span) (negated : Bool)
  /-- An operator was read, `left` standing before it. -/
  | operator (op : SetOperator) (left : ClassSet)

/-- The error of a class that is not closed: it shows the innermost bracket. -/
def unclosedClass {α : Type} (fallback : Span) : List ClassFrame → Reading α
  | [] => fault .classUnclosed fallback
  | .opened _ span _ :: _ => fault .classUnclosed span
  | .operator _ _ :: rest => unclosedClass fallback rest

/-- Reads hyphens that open a class and stand for themselves. -/
def readLeadingHyphens (start : Position) : Nat → Parts → Cursor → Reading (Parts × Cursor)
  | 0, p, c => .ok (p, c)
  | n + 1, p, c =>
    if c.peek = some '-' then
      let d := c.next
      if d.atEnd then fault .classUnclosed ⟨start, start⟩
      else readLeadingHyphens start n (p.push (.literal { span := c.spanChar, char := '-' })) d
    else .ok (p, c)

/-- Reads an opening bracket, the sign of a complement, and hyphens or a closing bracket that stand
for themselves right after it. -/
def readClassOpening (outer : Parts) (c : Cursor) : Reading ((ClassFrame × Parts) × Cursor) := do
  let start := c.pos
  let d := c.next
  if d.atEnd then fault .classUnclosed ⟨start, d.pos⟩
  else
    let negated := d.peek = some '^'
    let e := if negated then d.next else d
    if e.atEnd then fault .classUnclosed ⟨start, e.pos⟩
    else
      let (parts, f) ← readLeadingHyphens start e.rest.length { span := e.here } e
      if parts.items.isEmpty ∧ f.peek = some ']' then
        let g := f.next
        if g.atEnd then fault .classUnclosed ⟨start, g.pos⟩
        else
          let parts := parts.push (.literal { span := f.spanChar, char := ']' })
          return ((.opened outer ⟨start, g.pos⟩ negated, parts), g)
      else return ((.opened outer ⟨start, f.pos⟩ negated, parts), f)

/-- Reads a class such as `[:alpha:]` at the cursor, if one is there. -/
def readNamedClass? (c : Cursor) : Option (ClassSet × Cursor) :=
  let d := c.advanceBy 2
  if c.startsWith ['[', ':'] then
    let negated := d.peek = some '^'
    let e := if negated then d.advance else d
    let name := e.rest.takeWhile (· != ':')
    let f := e.advanceBy name.length
    if f.startsWith [':', ']'] then
      (NamedClass.ofName? (String.ofList name)).map fun kind =>
        let stop := f.advanceBy 2
        (.named ⟨c.pos, stop.pos⟩ negated kind, stop)
    else none
  else none

def readClassItem (x : Char) (c : Cursor) : Reading (Item × Cursor) :=
  if x = '\\' then readEscape c
  else .ok (.literal { span := c.spanChar, char := x }, c.advance)

/-- The item as a part of a class; places are none. -/
def Item.toClassSet : Item → Reading ClassSet
  | literal l => .ok (.literal l)
  | shorthand s n k => .ok (.shorthand s n k)
  | property s n q => .ok (.property s n q)
  | assertion s _ => fault .classEscapeInvalid s
  | dot s => fault .classEscapeInvalid s

/-- The item as an end of a range; only characters are. -/
def Item.toLiteral : Item → Reading Literal
  | literal l => .ok l
  | i => fault .classRangeBoundary i.span

/-- Reads a part of a class, or a range of two characters with a hyphen between them. A hyphen
before a closing bracket or another hyphen makes no range. -/
def readClassRange (stack : List ClassFrame) (x : Char) (c : Cursor) :
    Reading (ClassSet × Cursor) := do
  let (first, d) ← readClassItem x c
  let d := d.skip
  if d.atEnd then unclosedClass c.here stack
  -- a hyphen before the end of the class, or before another one, is no range
  else if d.peek ≠ some '-' ∨ d.peekNext = some ']' ∨ d.peekNext = some '-' then
    return (← first.toClassSet, d)
  else
    let e := d.next
    match e.peek with
    | none => unclosedClass c.here stack
    | some y =>
      let (last, f) ← readClassItem y e
      let span : Span := ⟨first.span.start, last.span.stop⟩
      let a ← first.toLiteral
      let b ← last.toLiteral
      if a.char ≤ b.char then return (.range span a b, f)
      else fault .classRangeInvalid span

/-- The part of a class that `right` finishes, with the operator before it. -/
def closeOperator (right : ClassSet) : List ClassFrame → ClassSet × List ClassFrame
  | .operator op left :: rest =>
    (.operation ⟨left.span.start, right.span.stop⟩ op left right, rest)
  | stack => (right, stack)

def operatorAt? (c : Cursor) : Option SetOperator :=
  if c.startsWith ['&', '&'] then some .intersection
  else if c.startsWith ['-', '-'] then some .difference
  else if c.startsWith ['~', '~'] then some .symmetricDifference
  else none

/-- Reads on in a class; `stack` is what has been opened, `parts` what stands side by side so far.
Each round reads a character at least, so that `fuel` rounds are enough. -/
def readClassRest : (fuel : Nat) → List ClassFrame → Parts → Cursor → Reading (Ast × Cursor)
  | 0, stack, _, c => unclosedClass c.here stack
  | fuel + 1, stack, parts, c =>
    let c := c.skip
    match c.peek with
    | none => unclosedClass c.here stack
    | some '[' =>
      match readNamedClass? c with
      | some (set, d) => readClassRest fuel stack (parts.push set) d
      -- what looks like a named class and is none is a class in the class
      | none => do
        let ((frame, inner), d) ← readClassOpening parts c
        readClassRest fuel (frame :: stack) inner d
    | some ']' =>
      let (set, stack) := closeOperator parts.toSet stack
      let d := c.advance
      match stack with
      | .opened outer opening negated :: rest =>
        let span : Span := ⟨opening.start, d.pos⟩
        if rest.isEmpty then .ok (.bracketed span negated set, d)
        else readClassRest fuel rest (outer.push (.bracketed span negated set)) d
      | _ => unclosedClass c.here stack
    | some x =>
      match operatorAt? c with
      | some op =>
        let (left, stack) := closeOperator parts.toSet stack
        let d := c.advanceBy 2
        readClassRest fuel (.operator op left :: stack) { span := d.here } d
      | none => do
        let (set, d) ← readClassRange stack x c
        readClassRest fuel stack (parts.push set) d

/-- Reads a class in brackets, the cursor standing at the first of them. -/
def readClass (c : Cursor) : Reading (Ast × Cursor) := do
  let ((frame, parts), d) ← readClassOpening { span := c.here } c
  readClassRest (d.rest.length + 1) [frame] parts d

end Remap.Regex
