import Remap.Proofs.Regex.Spans
import Remap.Proofs.Regex.Enclosed.Cursor
/-!
# Items of an expression in parentheses

A single item is read in parentheses as it is read alone.

Main statements: `follows_readEscape` and `follows_readItem`.
-/

namespace Remap.Regex

open Cursor (Enclosed)

/-- Results that are the same under `f`, and cursors that stand at the same place. -/
def Alike {α β : Type} (f : α → β) (n : Nat) (x y : α × Cursor) : Prop :=
  f y.1 = f x.1 ∧ x.2.Enclosed n y.2

theorem Alike.mono {α β : Type} {f : α → β} {n m : Nat} (hle : n ≤ m) (x y : α × Cursor)
    (h : Alike f n x y) : Alike f m x y := ⟨h.1, h.2.mono hle⟩

/-- A single item without its spans. -/
def Item.bare : Item → Item
  | literal l => .literal l.bare
  | assertion _ k => .assertion {} k
  | dot _ => .dot {}
  | shorthand _ negated k => .shorthand {} negated k
  | property _ negated q => .property {} negated q

theorem Item.bare_toAst (i : Item) : i.toAst.bare = i.bare.toAst := by cases i <;> rfl

variable {n : Nat} {c d : Cursor}

theorem follows_readHexDigits (h : c.Enclosed n d) (k v : Nat) :
    Follows (Alike id n) (readHexDigits k v c) (readHexDigits k v d) := by
  induction k generalizing n v c d with
  | zero => exact .ok ⟨rfl, h⟩
  | succ k ih =>
    rw [readHexDigits, readHexDigits]
    cases hc : c.peek with
    | none => exact .fault
    | some x =>
      rw [h.peek_of_some hc]
      dsimp only
      split
      · exact .fault
      · exact ih (h.next.mono (Nat.sub_le n 1)) _

theorem follows_readHexBraces (h : c.Enclosed n d) (start start' : Position) :
    Follows (Alike Literal.bare n) (readHexBraces start c) (readHexBraces start' d) := by
  obtain ⟨digits, e, e', hc, hd, he⟩ :=
    (h.next.mono (Nat.sub_le n 1)).takeNextWhile (p := fun x => (Unicode.hexDigit? x).isSome)
      (.inl rfl)
  unfold readHexBraces
  rw [hc, hd]
  dsimp only
  cases hp : e.peek with
  | none => exact .fault
  | some x =>
    rw [he.peek_of_some hp]
    by_cases hx : x = '}'
    · subst hx
      apply Follows.ite
      · exact fun _ => .fault
      · intro _
        split
        · exact .fault
        · exact .ok ⟨rfl, he.next.mono (Nat.sub_le n 1)⟩
    · split
      · exact .fault
      next heq => exact absurd (Option.some.inj heq) hx
      · exact .fault

theorem follows_readHex (h : c.Enclosed n d) (start start' : Position) (letter : Char) :
    Follows (Alike Literal.bare n) (readHex start letter c) (readHex start' letter d) := by
  have hnext := h.next.mono (Nat.sub_le n 1)
  unfold readHex
  dsimp only
  cases hp : c.next.peek with
  | none => exact .fault
  | some x =>
    rw [hnext.peek_of_some hp]
    by_cases hx : x = '{'
    · subst hx
      exact follows_readHexBraces hnext start start'
    · split
      next heq => cases heq
      next heq => exact absurd (Option.some.inj heq) hx
      · apply (follows_readHexDigits hnext _ _).bind
        rintro ⟨v, e⟩ ⟨v', e'⟩ ⟨hv, he⟩
        obtain rfl : v' = v := hv
        dsimp only
        split
        · exact .fault
        · exact .ok ⟨rfl, he⟩

/-- In braces a property is read up to the closing one, which the text alone must have. -/
theorem follows_readProperty (h : c.Enclosed n d) (start start' : Position) (negated : Bool) :
    Follows (Alike Item.bare n) (readProperty start negated c)
      (readProperty start' negated d) := by
  have hnext := h.next.mono (Nat.sub_le n 1)
  unfold readProperty
  dsimp only
  cases hp : c.next.peek with
  | none => exact .fault
  | some x =>
    rw [hnext.peek_of_some hp]
    by_cases hx : x = '{'
    · subst hx
      have htext := hnext.next.mono (Nat.sub_le n 1)
      -- the name has to end before the text does, so both readers take the same one
      by_cases hend : (c.next.next.takeNextWhile (· != '}')).2.atEnd = true
      · rw [if_pos hend]
        exact .fault
      · obtain ⟨text, e, e', hc, hd, he⟩ := htext.takeNextWhile (.inr hend)
        rw [hc] at hend
        rw [hc, hd, if_neg hend, if_neg (he.atEnd_eq_false hend)]
        exact .ok ⟨rfl, he.advance.mono (Nat.sub_le n 1)⟩
    · by_cases hx' : x = '\\'
      · subst hx'
        exact .fault
      · split
        next heq => cases heq
        next heq => exact absurd (Option.some.inj heq) hx
        next heq => exact absurd (Option.some.inj heq) hx'
        next heq =>
          cases heq
          exact .ok ⟨rfl, hnext.next.mono (Nat.sub_le n 1)⟩

theorem follows_readBoundaryName (h : c.Enclosed n d) (start start' : Position) :
    Follows (Alike id n) (readBoundaryName start c) (readBoundaryName start' d) := by
  have hnext := h.next.mono (Nat.sub_le n 1)
  unfold readBoundaryName
  dsimp only
  cases hp : c.next.peek with
  | none => exact .fault
  | some x =>
    rw [hnext.peek_of_some hp]
    dsimp only
    apply Follows.ite
    · intro _
      obtain ⟨name, e, e', hc, hd, he⟩ :=
        hnext.takeNextWhile (p := isBoundaryNameChar) (.inl (by decide))
      rw [hc, hd]
      apply Follows.ite_of_iff (he.peek_eq_some_iff (by decide))
      · intro _
        dsimp only
        split
        · exact .ok ⟨rfl, he.advance.mono (Nat.sub_le n 1)⟩
        · exact .fault
      · exact fun _ => .fault
    · exact fun _ => .ok ⟨rfl, h⟩

theorem follows_readWordBoundary (h : c.Enclosed n d) (span span' : Span) :
    Follows (Alike Item.bare n) (readWordBoundary span c) (readWordBoundary span' d) := by
  unfold readWordBoundary
  apply Follows.ite_of_iff (h.peek_eq_some_iff (by decide))
  · intro _
    apply (follows_readBoundaryName h _ _).bind
    rintro ⟨kind, e⟩ ⟨kind', e'⟩ ⟨hkind, he⟩
    obtain rfl : kind = kind' := hkind.symm
    cases kind with
    | none => exact .ok ⟨rfl, he⟩
    | some k => exact .ok ⟨rfl, he⟩
  · exact fun _ => .ok ⟨rfl, h⟩

/-- A backslash and what belongs to it are read alike. -/
theorem follows_readEscape (h : c.Enclosed n d) :
    Follows (Alike Item.bare (n - 1)) (readEscape c) (readEscape d) := by
  have hnext := h.advance
  have hstop := hnext.advance.mono (Nat.sub_le (n - 1) 1)
  unfold readEscape
  dsimp only
  cases hp : c.advance.peek with
  | none => exact .fault
  | some x =>
    rw [hnext.peek_of_some hp]
    dsimp only
    -- digits, hexadecimal numbers, properties, boundaries, and then single letters
    refine .ite (fun _ => .fault) fun _ => .ite ?_ fun _ => .ite ?_ fun _ => .ite ?_ ?_
    · intro _
      apply (follows_readHex hnext _ _ x).bind
      rintro ⟨l, e⟩ ⟨l', e'⟩ ⟨hl, he⟩
      exact .ok ⟨congrArg Item.literal hl, he⟩
    · exact fun _ => follows_readProperty hnext _ _ _
    · exact fun _ => follows_readWordBoundary hstop _ _
    · intro _
      split
      · exact .ok ⟨rfl, hstop⟩
      · exact .ok ⟨rfl, hstop⟩
      · exact .ok ⟨rfl, hstop⟩
      · exact .ite (fun _ => .ok ⟨rfl, hstop⟩) fun _ => .fault

/-- A single item is read alike. -/
theorem follows_readItem (h : c.Enclosed n d) (x : Char) :
    Follows (Alike Item.bare (n - 1)) (readItem x c) (readItem x d) := by
  unfold readItem
  split
  · exact follows_readEscape h
  · exact .ok ⟨rfl, h.advance⟩
  · exact .ok ⟨rfl, h.advance⟩
  · exact .ok ⟨rfl, h.advance⟩
  · exact .ok ⟨rfl, h.advance⟩

end Remap.Regex
