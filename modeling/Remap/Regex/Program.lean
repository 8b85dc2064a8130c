import Remap.Regex.Node
/-!
# Programs for matching

`Node.emit` writes an expression as instructions behind a program that goes on at `next`. Every
instruction names the one that follows it, and a `split` names two, the preferred one first.

Main statement: `size_emit`, the number of instructions that an expression takes. It tells where a
loop will end before its body is written.
-/

namespace Remap.Regex

inductive Instr
  /-- The match is complete. -/
  | accept
  | char (c : Char) (next : Nat)
  | set (s : CharSet) (next : Nat)
  | look (l : Look) (next : Nat)
  /-- Notes the present place under a number. -/
  | mark (slot next : Nat)
  | split (first second : Nat)
  deriving Repr

/-- Instructions; each is found under its place in the array. -/
abbrev Program := Array Instr

/-- A split that prefers `body` if it is greedy, and `exit` if not. -/
def Instr.choice (greedy : Bool) (body exit : Nat) : Instr :=
  if greedy then .split body exit else .split exit body

def times {α : Type} (f : α → α) : Nat → α → α
  | 0, x => x
  | n + 1, x => times f n (f x)

/-- How many instructions an expression takes. -/
def Node.size : Node → Nat
  | empty => 0
  | char _ => 1
  | set _ => 1
  | look _ => 1
  | capture _ _ n => n.size + 2
  | repetition least most _ n =>
    match most with
    | some m => least * n.size + (m - least) * (n.size + 1)
    | none =>
      if least = 0 then n.size + if n.maybeEmpty then 2 else 1
      else least * n.size + 1
  | seq a b => a.size + b.size
  | alt a b => a.size + b.size + 1

/-- Writes a loop whose body has `size` instructions: the body, then the split that starts it again
or leaves. The entry is that of the body. -/
def emitLoop (emit : Nat → Program → Nat × Program) (size : Nat) (greedy : Bool) (next : Nat)
    (p : Program) : Nat × Program :=
  let (entry, q) := emit (p.size + size) p
  (entry, q.push (.choice greedy entry next))

/-- Writes an expression that goes on at `next`; gives its entry and the longer program. -/
def Node.emit : Node → (next : Nat) → Program → Nat × Program
  | empty, next, p => (next, p)
  | char c, next, p => (p.size, p.push (.char c next))
  | set s, next, p => (p.size, p.push (.set s next))
  | look l, next, p => (p.size, p.push (.look l next))
  | capture i _ n, next, p =>
    let (entry, q) := n.emit p.size (p.push (.mark (2 * i + 1) next))
    (q.size, q.push (.mark (2 * i) entry))
  | seq a b, next, p =>
    let (entry, q) := b.emit next p
    a.emit entry q
  | alt a b, next, p =>
    let (second, q) := b.emit next p
    let (first, q) := a.emit next q
    (q.size, q.push (.split first second))
  | repetition least most greedy n, next, p =>
    let before (x : Nat × Program) : Nat × Program := n.emit x.1 x.2
    match most with
    | some m =>
      -- each optional copy is entered from the one before it, and leaves to `next`
      let option (x : Nat × Program) : Nat × Program :=
        let (body, q) := n.emit x.1 x.2
        (q.size, q.push (.choice greedy body next))
      times before least (times option (m - least) (next, p))
    | none =>
      let (entry, q) := emitLoop n.emit n.size greedy next p
      if least = 0 then
        if n.maybeEmpty then (q.size, q.push (.choice greedy entry next))
        else (q.size - 1, q)
      else times before (least - 1) (entry, q)

/-! ### Sizes -/

theorem times_size {f : Nat × Program → Nat × Program} {k : Nat}
    (h : ∀ x, (f x).2.size = x.2.size + k) (n : Nat) (x : Nat × Program) :
    (times f n x).2.size = x.2.size + n * k := by
  induction n generalizing x with
  | zero => simp [times]
  | succ n ih => rw [times, ih, h]; rw [Nat.add_mul]; omega

theorem size_emit (n : Node) (next : Nat) (p : Program) :
    (n.emit next p).2.size = p.size + n.size := by
  induction n generalizing next p with
  | empty => rfl
  | char c => simp [Node.emit, Node.size]
  | set s => simp [Node.emit, Node.size]
  | look l => simp [Node.emit, Node.size]
  | capture i name n ih => simp [Node.emit, Node.size, ih]; omega
  | seq a b iha ihb => simp [Node.emit, Node.size, iha, ihb]; omega
  | alt a b iha ihb => simp [Node.emit, Node.size, iha, ihb]; omega
  | repetition least most greedy n ih =>
    have hb : ∀ x : Nat × Program, (n.emit x.1 x.2).2.size = x.2.size + n.size :=
      fun x => ih x.1 x.2
    cases most with
    | some m =>
      simp only [Node.emit, Node.size]
      rw [times_size hb, times_size (k := n.size + 1)]
      · dsimp only
        omega
      · intro x
        simp [hb, Nat.add_assoc]
    | none =>
      by_cases h : least = 0
      · by_cases he : n.maybeEmpty <;>
          simp [Node.emit, Node.size, emitLoop, h, he, ih, Nat.add_assoc]
      · simp only [Node.emit, Node.size, h, if_false]
        rw [times_size hb]
        have : least * n.size = (least - 1) * n.size + n.size := by
          rw [← Nat.succ_mul]; congr 1; omega
        simp [emitLoop, ih]
        omega

end Remap.Regex
