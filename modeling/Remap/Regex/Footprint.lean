import Std.Data.HashMap
import Remap.Regex.Node
/-!
# The limit on the size of an expression

An expression is refused when an automaton over the bytes of UTF-8 text, with its repetitions
written out, would take more than ten mebibytes. `Node.footprint` counts that memory without
building the automaton: a state takes 32 bytes, a transition of a state with many of them 8 more,
and an alternative 4 more. It is counted for reading forwards, where groups take two states each,
and for reading backwards, where they take none.
-/

namespace Remap.Regex

/-- The greatest footprint that is allowed, in bytes. -/
def footprintLimit : Nat := 10485760

namespace Footprint

/-- The bytes that a state takes. -/
def state : Nat := 32

/-- The bytes of a state with `n` alternatives. -/
def choice (n : Nat) : Nat := state + 4 * n

abbrev ByteRange := Nat × Nat

def utf8 (n : Nat) : List Nat :=
  if n < 0x80 then [n]
  else if n < 0x800 then [0xC0 + n / 0x40, 0x80 + n % 0x40]
  else if n < 0x10000 then [0xE0 + n / 0x1000, 0x80 + n / 0x40 % 0x40, 0x80 + n % 0x40]
  else [0xF0 + n / 0x40000, 0x80 + n / 0x1000 % 0x40, 0x80 + n / 0x40 % 0x40, 0x80 + n % 0x40]

/-- Where a range is cut so that the code points of a part have byte sequences that differ in
ranges: after the first of the returned places. -/
def cut? (lo hi : Nat) : Option Nat :=
  let atLength := [0x7F, 0x7FF, 0xD7FF, 0xDFFF, 0xFFFF].find? fun m => lo ≤ m && m < hi
  let atBlock := [0x40, 0x1000, 0x40000].findSome? fun m =>
    if lo / m = hi / m then none
    else if lo % m ≠ 0 then some (lo / m * m + (m - 1))
    else if hi % m ≠ m - 1 then some (hi / m * m - 1)
    else none
  atLength.or atBlock

/-- The sequences of byte ranges of a range of code points; surrogates have none. -/
def sequences : (fuel : Nat) → (lo hi : Nat) → List (List ByteRange)
  | 0, _, _ => []
  | fuel + 1, lo, hi =>
    if hi < lo then []
    else
      match cut? lo hi with
      | some m => sequences fuel lo m ++ sequences fuel (m + 1) hi
      | none => if 0xD800 ≤ lo ∧ hi ≤ 0xDFFF then [] else [(utf8 lo).zip (utf8 hi)]

def setSequences (s : CharSet) : List (List ByteRange) :=
  s.ranges.flatMap fun r => sequences 64 r.lo r.hi

/-- Nodes of an automaton by their transitions, each with its number. -/
abbrev Nodes := Std.HashMap (List (ByteRange × Nat)) Nat

/-- Puts sequences that begin with the same range together. -/
def groupHeads : List (List ByteRange) → List (ByteRange × List (List ByteRange))
  | [] => []
  | [] :: rest => groupHeads rest
  | (r :: tail) :: rest =>
    match groupHeads rest with
    | (s, tails) :: more =>
      if r = s then (r, tail :: tails) :: more else (r, [tail]) :: (s, tails) :: more
    | [] => [(r, [tail])]

/-- The number of the node at which some sequences start, and the nodes with it and those behind
it; equal nodes are shared. -/
def share : (depth : Nat) → List (List ByteRange) → Nodes → Nat × Nodes
  | 0, _, nodes => (0, nodes)
  | depth + 1, seqs, nodes =>
    if seqs.all List.isEmpty then (0, nodes)
    else
      let (transitions, nodes) := (groupHeads seqs).foldl
        (fun (ts, nodes) (r, tails) =>
          let (id, nodes) := share depth tails nodes
          (ts ++ [(r, id)], nodes))
        (([] : List (ByteRange × Nat)), nodes)
      match nodes[transitions]? with
      | some id => (id, nodes)
      | none => (nodes.size + 1, nodes.insert transitions (nodes.size + 1))

/-- The bytes for a set, read forwards: the shared nodes and an end. -/
def setForwards (s : CharSet) : Nat :=
  let (_, nodes) := share 5 (setSequences s) ∅
  nodes.fold (fun n ts _ => n + state + 8 * ts.length) state

/-- The different beginnings of sequences. -/
def beginnings : (depth : Nat) → List (List ByteRange) → Nat
  | 0, _ => 0
  | depth + 1, seqs =>
    (groupHeads seqs).foldl (fun n (_, tails) => n + 1 + beginnings depth tails) 0

/-- The bytes for a set, read backwards: the different beginnings, an alternative for each
sequence, and an end. -/
def setBackwards (s : CharSet) : Nat :=
  let seqs := setSequences s
  state * beginnings 5 seqs + choice seqs.length + state

def ofSet (forwards : Bool) (s : CharSet) : Nat :=
  if s.ranges.isEmpty then state
  else
    match s.only? with
    | some c => state * c.utf8Size
    | none =>
      if s.isAscii then state + 8 * s.ranges.length + state
      else if forwards then setForwards s
      else setBackwards s

end Footprint

open Footprint

/-- The set that an expression of one character matches. -/
def Node.asSet? : Node → Option CharSet
  | char c => some (CharSet.single c)
  | set s => some s
  | alt a b =>
    match a.asSet?, b.asSet? with
    | some s, some t => some (s.union t)
    | _, _ => none
  | _ => none

/-- The bytes for alternatives in a row: what each of them takes, one choice and one end. -/
def Footprint.joined (row : Nat × Nat) : Nat :=
  if row.2 ≤ 1 then row.1 else row.1 + choice row.2 + state

/-- The bytes for each of the alternatives of an expression, added up, and their number. -/
def Node.row (forwards : Bool) : Node → Nat × Nat
  | empty => (0, 1)
  | char c => (state * c.utf8Size, 1)
  | set s => (ofSet forwards s, 1)
  | look _ => (state, 1)
  | capture _ _ n =>
    (max state (joined (n.row forwards)) + if forwards then 2 * state else 0, 1)
  | seq a b => (joined (a.row forwards) + joined (b.row forwards), 1)
  | alt a b =>
    -- alternatives that are single characters make one set
    match (alt a b).asSet? with
    | some s => (ofSet forwards s, 1)
    | none =>
      let (x, i) := a.row forwards
      let (y, j) := b.row forwards
      (max state x + max state y, i + j)
  | repetition least most _ n =>
    let x := max state (joined (n.row forwards))
    match most with
    | some m =>
      -- copies beyond the least are optional, one inside the other
      if least = 0 ∧ m = 1 then (choice 2 + x + state, 1)
      else if m ≤ least then (least * x, 1)
      else (state + least * x + (m - least) * (choice 2 + x), 1)
    | none =>
      if least = 0 then
        (x + if n.maybeEmpty then 2 * choice 2 + state else choice 2, 1)
      else (least * x + choice 2, 1)

/-- The bytes for a whole expression, which may be looked for anywhere in a text: the expression,
the states of the whole match, and those that pass over the text before it. -/
def Node.footprint (forwards : Bool) (n : Node) : Nat :=
  joined (n.row forwards) + (if forwards then 2 * state else 0) + state + (choice 2 + 2 * state + 8)

/-- Whether an expression exceeds the limit. Few instructions never do, for a set takes much less
than `0x40000` bytes. -/
def Node.tooLarge (n : Node) (instructions : Nat) : Bool :=
  if instructions * 0x40000 ≤ footprintLimit then false
  else footprintLimit < n.footprint true || footprintLimit < n.footprint false

end Remap.Regex
