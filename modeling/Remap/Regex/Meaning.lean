import Remap.Regex.Parser.Escape
import Remap.Regex.Node
import Remap.Unicode.Property
import Remap.Unicode.Fold
/-!
# The meaning of an expression

`Ast.meaning` works the flags into an expression and replaces classes by sets. Flags that are set
within a group hold up to its end, in the alternatives that follow too.

Outside of Unicode mode classes hold ASCII characters only: a class that would hold a byte beyond
them is refused, for it could match a part of a character.
-/

namespace Remap.Regex

/-- Flags that hold at a place of an expression. -/
structure Mode where
  ignoreCase : Bool := false
  multiLine : Bool := false
  dotAll : Bool := false
  swapGreed : Bool := false
  unicode : Bool := true
  crlf : Bool := false
  deriving DecidableEq, Repr

namespace Mode

def switch (mode : Mode) : Modifier × Bool → Mode
  | (.ignoreCase, on) => { mode with ignoreCase := on }
  | (.multiLine, on) => { mode with multiLine := on }
  | (.dotAll, on) => { mode with dotAll := on }
  | (.swapGreed, on) => { mode with swapGreed := on }
  | (.unicode, on) => { mode with unicode := on }
  | (.crlf, on) => { mode with crlf := on }
  | (.verbose, _) => mode

def switchAll (mode : Mode) (ms : Modifiers) : Mode := ms.foldl switch mode

/-- The cases of the members added to a set, if case is ignored. -/
def fold (mode : Mode) (s : CharSet) : CharSet :=
  if mode.ignoreCase then if mode.unicode then s.foldCase else s.foldCaseAscii else s

/-- The set or its complement. Outside of Unicode mode it has to stay within ASCII. -/
def complementIf (mode : Mode) (negated : Bool) (span : Span) (s : CharSet) : Reading CharSet :=
  let s := if negated then s.complement else s
  if mode.unicode || s.isAscii then .ok s else fault .invalidText span

end Mode

/-! ### Classes -/

/-- The ASCII characters of a named class, as runs. -/
def NamedClass.runs : NamedClass → List (Char × Char)
  | alnum => [('0', '9'), ('A', 'Z'), ('a', 'z')]
  | alpha => [('A', 'Z'), ('a', 'z')]
  | ascii => [('\x00', '\x7f')]
  | blank => [('\t', '\t'), (' ', ' ')]
  | cntrl => [('\x00', '\x1f'), ('\x7f', '\x7f')]
  | digit => [('0', '9')]
  | graph => [('!', '~')]
  | lower => [('a', 'z')]
  | print => [(' ', '~')]
  | punct => [('!', '/'), (':', '@'), ('[', Char.ofNat 0x60), ('\x7b', '~')]
  | space => [('\t', '\r'), (' ', ' ')]
  | upper => [('A', 'Z')]
  | word => [('0', '9'), ('A', 'Z'), ('_', '_'), ('a', 'z')]
  | xdigit => [('0', '9'), ('A', 'F'), ('a', 'f')]

def NamedClass.set (k : NamedClass) : CharSet := ⟨k.runs.map fun (a, b) => ⟨a.toNat, b.toNat⟩⟩

def Shorthand.set (unicode : Bool) : Shorthand → CharSet
  | digit => if unicode then Unicode.digitSet else NamedClass.digit.set
  | space => if unicode then Unicode.spaceSet else NamedClass.space.set
  | word => if unicode then Unicode.wordSet else NamedClass.word.set

/-- The set of a shorthand class or its complement. -/
def shorthandSet (mode : Mode) (span : Span) (negated : Bool) (k : Shorthand) : Reading CharSet :=
  mode.complementIf negated span (k.set mode.unicode)

def propertySet (mode : Mode) (span : Span) (negated : Bool) (q : PropertyQuery) :
    Reading CharSet :=
  if mode.unicode then
    let found :=
      match q with
      | .named name => Unicode.Property.named name
      | .valued name value => Unicode.Property.valued name value
    match found with
    | .error .property => fault .propertyNotFound span
    | .error .value => fault .propertyValueNotFound span
    | .ok s => mode.complementIf negated span (mode.fold s)
  else fault .unicodeNotAllowed span

/-- The character that a literal stands for; outside of Unicode mode it may not be a byte that is
no character. -/
def literalChar (mode : Mode) (l : Literal) : Reading Char :=
  if !mode.unicode && l.byte && 0x7F < l.char.toNat then fault .invalidText l.span
  else .ok l.char

/-- The character that a literal stands for in a class: outside of Unicode mode, an ASCII one. -/
def classChar (mode : Mode) (l : Literal) : Reading Char := do
  let c ← literalChar mode l
  if mode.unicode || c.toNat ≤ 0x7F then return c else fault .unicodeNotAllowed l.span

/-- Two sets, joined by an operator. -/
def SetOperator.apply : SetOperator → CharSet → CharSet → CharSet
  | intersection => CharSet.inter
  | difference => CharSet.diff
  | symmetricDifference => CharSet.symmDiff

mutual
/-- The set of a part of a class. -/
def ClassSet.meaning (mode : Mode) : ClassSet → Reading CharSet
  | empty _ => .ok CharSet.empty
  | literal l => do
    let c ← classChar mode l
    return CharSet.single c
  | range _ first last => do
    let a ← classChar mode first
    let b ← classChar mode last
    return CharSet.range a.toNat b.toNat
  | named span negated k => mode.complementIf negated span (mode.fold k.set)
  | shorthand span negated k => shorthandSet mode span negated k
  | property span negated q => propertySet mode span negated q
  | bracketed span negated set => do
    let s ← set.meaning mode
    mode.complementIf negated span (mode.fold s)
  | union _ items => do
    let ss ← ClassSet.meanings mode items
    return CharSet.unions ss
  | operation _ op left right => do
    let a ← left.meaning mode
    let b ← right.meaning mode
    -- the sides are folded before they are compared, not after
    return op.apply (mode.fold a) (mode.fold b)

def ClassSet.meanings (mode : Mode) : List ClassSet → Reading (List CharSet)
  | [] => .ok []
  | c :: cs => do
    let s ← c.meaning mode
    let ss ← ClassSet.meanings mode cs
    return s :: ss
end

/-! ### Expressions -/

/-- One character, or the set of its cases. -/
def literalNode (mode : Mode) (c : Char) : Node :=
  let cases := mode.fold (CharSet.single c)
  if cases = CharSet.single c then .char c else .set cases

def dotSet (mode : Mode) : CharSet :=
  if mode.dotAll then CharSet.full
  else if mode.crlf then CharSet.complement ⟨[⟨0x0A, 0x0A⟩, ⟨0x0D, 0x0D⟩]⟩
  else CharSet.complement ⟨[⟨0x0A, 0x0A⟩]⟩

def Assertion.look (mode : Mode) : Assertion → Look
  | startLine => if mode.multiLine then .lineStart mode.crlf else .textStart
  | endLine => if mode.multiLine then .lineEnd mode.crlf else .textEnd
  | startText => .textStart
  | endText => .textEnd
  | wordBoundary => .word .boundary mode.unicode
  | notWordBoundary => .word .inner mode.unicode
  | wordStart => .word .start mode.unicode
  | wordEnd => .word .stop mode.unicode
  | wordStartHalf => .word .startHalf mode.unicode
  | wordEndHalf => .word .stopHalf mode.unicode

mutual
/-- The meaning of an expression where the flags are `mode`, and the flags behind it. -/
def Ast.meaningFrom (mode : Mode) : Ast → Reading (Node × Mode)
  | empty _ => .ok (.empty, mode)
  | modifiers _ ms => .ok (.empty, mode.switchAll ms)
  | literal l => do
    let c ← literalChar mode l
    return (literalNode mode c, mode)
  | dot span =>
    if mode.unicode then .ok (.set (dotSet mode), mode) else fault .invalidText span
  | assertion _ k => .ok (.look (k.look mode), mode)
  | shorthand span negated k => do
    let s ← shorthandSet mode span negated k
    return (.set s, mode)
  | property span negated q => do
    let s ← propertySet mode span negated q
    return (.set s, mode)
  | bracketed span negated set => do
    let s ← set.meaning mode
    let s ← mode.complementIf negated span (mode.fold s)
    return (.set s, mode)
  | repetition _ least most greedy part => do
    let (n, mode) ← part.meaningFrom mode
    return (n.repeated least most (greedy != mode.swapGreed), mode)
  -- flags that are set in a group end with it
  | group _ kind part =>
    match kind with
    | .capture i name => do
      let (n, _) ← part.meaningFrom mode
      return (.capture i name n, mode)
    | .plain ms => do
      let (n, _) ← part.meaningFrom (mode.switchAll ms)
      return (n, mode)
  | alternation _ parts => do
    let (ns, mode) ← Ast.meaningsFrom mode parts
    return (.alternation ns, mode)
  | concat _ parts => do
    let (ns, mode) ← Ast.meaningsFrom mode parts
    return (.concat ns, mode)

/-- The meanings of some expressions, of which each passes its flags on to the next. -/
def Ast.meaningsFrom (mode : Mode) : List Ast → Reading (List Node × Mode)
  | [] => .ok ([], mode)
  | a :: as => do
    let (n, mode) ← a.meaningFrom mode
    let (ns, mode) ← Ast.meaningsFrom mode as
    return (n :: ns, mode)
end

/-- The meaning of a whole expression that starts with some flags. -/
def Ast.meaning (mode : Mode) (a : Ast) : Reading Node := do
  let (n, _) ← a.meaningFrom mode
  return n

end Remap.Regex
