/-!
# Lines with their ends

For comparison a text is cut into lines that keep their ends: a line feed, a carriage return, or
both in this order.

Main statement: `flatten_cutLines`, by which the lines make up the text.
-/

namespace Remap.Diff

/-- The lines of a text, each with its end. -/
def cutLines : List Char → List (List Char)
  | [] => []
  | '\r' :: '\n' :: cs => ['\r', '\n'] :: cutLines cs
  | c :: cs =>
    if c = '\r' ∨ c = '\n' then [c] :: cutLines cs
    else
      match cutLines cs with
      | [] => [[c]]
      | l :: ls => (c :: l) :: ls

def hasEnd (line : List Char) : Bool :=
  match line.getLast? with
  | some c => c == '\r' || c == '\n'
  | none => false

/-- The lines make up the text. -/
theorem flatten_cutLines (cs : List Char) : (cutLines cs).flatten = cs := by
  fun_induction cutLines cs with
  | case1 => rfl
  | case2 cs ih => simp [ih]
  | case3 c cs _ _ ih => simp [ih]
  | case4 c cs _ _ h ih =>
    rw [h] at ih
    simp [← ih]
  | case5 c cs _ _ l ls h ih =>
    rw [h] at ih
    simp [← ih]

end Remap.Diff
