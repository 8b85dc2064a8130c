import Remap.CharSet.Basic
/-!
# Tables of code points

The tables of character properties are texts of ranges in increasing order, written with
hexadecimal digits and parted by blanks: `41-5A 61-7A AA B5`.
-/

namespace Remap.Unicode

def hexDigit? (c : Char) : Option Nat :=
  if '0' ≤ c ∧ c ≤ '9' then some (c.toNat - 48)
  else if 'A' ≤ c ∧ c ≤ 'F' then some (c.toNat - 55)
  else if 'a' ≤ c ∧ c ≤ 'f' then some (c.toNat - 87)
  else none

/-- Reads ranges; `lo` is the lower end read before a hyphen, `n` the number being read. -/
def readRanges (lo n : Option Nat) : List Char → List CodeRange
  | [] => close lo n []
  | c :: cs =>
    match hexDigit? c with
    | some d => readRanges lo (some (n.getD 0 * 16 + d)) cs
    | none => if c = '-' then readRanges n none cs else close lo n (readRanges none none cs)
where
  /-- Ends the range being read. -/
  close : Option Nat → Option Nat → List CodeRange → List CodeRange
    | some a, some b, rs => ⟨a, b⟩ :: rs
    | none, some b, rs => ⟨b, b⟩ :: rs
    | _, none, rs => rs

/-- The set that a table lists. -/
def ofTable (table : String) : CharSet := ⟨readRanges none none table.toList⟩

example : ofTable "41-5A AA\nB5" = ⟨[⟨0x41, 0x5A⟩, ⟨0xAA, 0xAA⟩, ⟨0xB5, 0xB5⟩]⟩ := by decide +kernel

end Remap.Unicode
