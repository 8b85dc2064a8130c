import Remap.Regex.Syntax
import Remap.Text.Blank
import Remap.Text.Search
/-!
# Reading an expression

A `Cursor` stands at a place of the expression and holds what is left of it. In verbose mode white
space and comments are passed over by `skip`, and `next` steps over one character and what `skip`
passes over.

Main statements: none of the steps lengthens what is left.
-/

namespace Remap.Regex

/-- A place in an expression and what is left of it. -/
structure Cursor where
  rest : List Char
  pos : Position := {}
  verbose : Bool := false

namespace Cursor

def atEnd (c : Cursor) : Bool := c.rest.isEmpty

def peek (c : Cursor) : Option Char := c.rest.head?

/-- The character after the one at the cursor. -/
def peekSecond (c : Cursor) : Option Char := c.rest.tail.head?

def advance (c : Cursor) : Cursor :=
  match c.rest with
  | [] => c
  | x :: xs => { c with rest := xs, pos := c.pos.after x }

def advanceBy : Nat → Cursor → Cursor
  | 0, c => c
  | n + 1, c => advanceBy n c.advance

/-- Passes over a comment up to the end of its line (`inside`), and over white space and comments
that follow. -/
def skipFrom (inside : Bool) (pos : Position) : List Char → Position × List Char
  | [] => (pos, [])
  | x :: xs =>
    if inside then skipFrom (x != '\n') (pos.after x) xs
    else if Text.isBlank x then skipFrom false (pos.after x) xs
    else if x = '#' then skipFrom true (pos.after x) xs
    else (pos, x :: xs)

/-- In verbose mode, passes over white space and comments. -/
def skip (c : Cursor) : Cursor :=
  if c.verbose then
    let (pos, rest) := skipFrom false c.pos c.rest
    { c with rest, pos }
  else c

/-- Steps over one character, and over white space and comments after it in verbose mode. -/
def next (c : Cursor) : Cursor := c.advance.skip

/-- The character after the one at the cursor, white space left out in verbose mode, and the sign
of a comment too. -/
def peekNext (c : Cursor) : Option Char :=
  if c.verbose then
    let after := c.rest.tail
    match after.dropWhile Text.isBlank with
    | '#' :: xs =>
      match xs.dropWhile Text.isBlank with
      | x :: _ => some x
      | [] => after.head?
    | x :: _ => some x
    | [] => after.head?
  else c.peekSecond

/-- The empty span at the cursor. -/
def here (c : Cursor) : Span := ⟨c.pos, c.pos⟩

def spanChar (c : Cursor) : Span := ⟨c.pos, c.advance.pos⟩

def startsWith (w : List Char) (c : Cursor) : Bool := w.isPrefixOf c.rest

/-- Passes over white space characters, also those that are not skipped otherwise. -/
def dropBlanks (c : Cursor) : Cursor :=
  advanceBy (c.rest.takeWhile Text.isBlank).length c

/-- The characters up to the first that fails `p`, with `next` between each two, and the cursor
there; reads `n` characters at most. -/
def takeNext (p : Char → Bool) : Nat → Cursor → List Char × Cursor
  | 0, c => ([], c)
  | n + 1, c =>
    match c.peek with
    | some x =>
      if p x then
        let (xs, stop) := takeNext p n c.next
        (x :: xs, stop)
      else ([], c)
    | none => ([], c)

/-- The characters up to the first that fails `p`, with `next` between each two. -/
def takeNextWhile (p : Char → Bool) (c : Cursor) : List Char × Cursor :=
  takeNext p c.rest.length c

/-! ### What is left never grows -/

theorem length_advance (c : Cursor) : c.advance.rest.length = c.rest.length - 1 := by
  unfold advance
  split <;> simp_all

theorem length_skipFrom (inside : Bool) (pos : Position) (cs : List Char) :
    (skipFrom inside pos cs).2.length ≤ cs.length := by
  induction cs generalizing inside pos with
  | nil => simp [skipFrom]
  | cons x xs ih =>
    rw [skipFrom]
    split
    · exact Nat.le_succ_of_le (ih _ _)
    · split
      · exact Nat.le_succ_of_le (ih _ _)
      · split
        · exact Nat.le_succ_of_le (ih _ _)
        · simp

theorem length_skip_le (c : Cursor) : c.skip.rest.length ≤ c.rest.length := by
  unfold skip
  split
  · exact length_skipFrom false c.pos c.rest
  · exact Nat.le_refl _

theorem length_next_le (c : Cursor) : c.next.rest.length ≤ c.rest.length - 1 := by
  rw [← length_advance]
  exact length_skip_le c.advance

end Cursor
end Remap.Regex
