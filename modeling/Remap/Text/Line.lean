/-!
# Lines

A line ends at a line feed or at a carriage return with a line feed; the last one may have no end.
`lines` gives the lines without their ends.
-/

namespace Remap.Text

/-- The lines of a text, without `\n` or `\r\n`. A text that ends a line does not start another. -/
def lines : List Char → List (List Char)
  | [] => []
  | '\r' :: '\n' :: cs => [] :: lines cs
  | c :: cs =>
    if c = '\n' then [] :: lines cs
    else
      match lines cs with
      | [] => [[c]]
      | l :: ls => (c :: l) :: ls

end Remap.Text
