/-!
# Replacement templates

A template is text with tokens in it: `$$`, `$&`, the dollar with a grave accent or an apostrophe,
`$1` to `$99` and `$<name>`. `Template.items` reads a template for patterns of a given shape, and
`Item.value` says what an item stands for in a match. Dollars that begin no token stand for
themselves.

Main statement: `length_readToken_le`, by which reading a token uses up the dollar at least.
-/

namespace Remap

/-- What a template depends on: how many groups a pattern has, and whether any has a name. -/
structure Shape where
  groups : Nat
  named : Bool
  deriving DecidableEq, Repr

/-- What a match gives to a template: the whole of it, the texts around it, and the texts of its
groups, by number and by name. A group that took no part in the match has the empty text. -/
structure Matched where
  whole : List Char
  before : List Char
  after : List Char
  group : Nat → List Char
  named : List Char → List Char

namespace Template

inductive Item
  /-- A character that stands for itself. -/
  | char (c : Char)
  | whole
  | before
  | after
  | group (n : Nat)
  | named (name : List Char)
  deriving DecidableEq, Repr

/-- What an item stands for in a match. -/
def Item.value (m : Matched) : Item → List Char
  | char c => [c]
  | whole => m.whole
  | before => m.before
  | after => m.after
  | group n => m.group n
  | named name => m.named name

def digit? (c : Char) : Option Nat := if c.isDigit then some (c.toNat - 48) else none

/-- The number of a group that the pattern has. -/
def groupNumber? (shape : Shape) (n : Nat) : Option Nat :=
  if 1 ≤ n ∧ n ≤ shape.groups then some n else none

/-- Reads the number of a group, `d` being its first digit: two digits if there is such a group,
else one. -/
def readNumber (shape : Shape) (d : Nat) (rest : List Char) : Option (Nat × List Char) :=
  let two :=
    match rest with
    | c :: cs =>
      ((digit? c).bind fun e => groupNumber? shape (d * 10 + e)).map fun n => (n, cs)
    | [] => none
  two.or ((groupNumber? shape d).map fun n => (n, rest))

/-- Reads what follows a dollar, and gives the rest of the template. A dollar that begins no token
is an item on its own. -/
def readToken (shape : Shape) : List Char → Item × List Char
  | [] => (.char '$', [])
  | '$' :: cs => (.char '$', cs)
  | '&' :: cs => (.whole, cs)
  | '\'' :: cs => (.after, cs)
  | '<' :: cs =>
    if shape.named ∧ '>' ∈ cs then
      (.named (cs.takeWhile (· != '>')), (cs.dropWhile (· != '>')).tail)
    else (.char '$', '<' :: cs)
  | c :: cs =>
    if c = Char.ofNat 0x60 then (.before, cs)
    else
      match (digit? c).bind fun d => readNumber shape d cs with
      | some (n, rest) => (.group n, rest)
      | none => (.char '$', c :: cs)

theorem length_readNumber_le {shape : Shape} {d n : Nat} {cs rest : List Char}
    (h : readNumber shape d cs = some (n, rest)) : rest.length ≤ cs.length := by
  unfold readNumber at h
  rcases Option.or_eq_some_iff.1 h with h | ⟨_, h⟩
  · split at h
    · obtain ⟨k, _, hk⟩ := Option.map_eq_some_iff.1 h
      cases hk
      simp
    · cases h
  · obtain ⟨k, _, hk⟩ := Option.map_eq_some_iff.1 h
    cases hk
    exact Nat.le_refl _

/-- Reading a token leaves no more than what follows the dollar. -/
theorem length_readToken_le (shape : Shape) (cs : List Char) :
    (readToken shape cs).2.length ≤ cs.length := by
  unfold readToken
  split
  · simp
  · simp
  · simp
  · simp
  · next cs =>
    split
    -- a name goes up to the closing bracket, which is dropped with it
    · have := (List.dropWhile_sublist (l := cs) (· != '>')).length_le
      simp only [List.length_tail, List.length_cons]
      omega
    · simp
  · next c cs _ _ _ _ =>
    split
    · simp
    · split
      -- a number takes one digit or two
      · next n rest h =>
        obtain ⟨d, _, hd⟩ := Option.bind_eq_some_iff.1 h
        have := length_readNumber_le hd
        simp only [List.length_cons]
        omega
      · simp

def items (shape : Shape) : List Char → List Item
  | [] => []
  | c :: cs =>
    if c = '$' then
      let t := readToken shape cs
      t.1 :: items shape t.2
    else .char c :: items shape cs
termination_by cs => cs.length
decreasing_by
  · have := length_readToken_le shape cs
    simp only [List.length_cons]
    omega
  · simp

/-- The text that a template stands for in a match. -/
def expand (shape : Shape) (m : Matched) (template : List Char) : List Char :=
  (items shape template).flatMap fun i => i.value m

end Template
end Remap
