import Remap.Diff.Hunk
import Remap.Diff.Line
import Remap.Report.Theme
/-!
# Differences between two texts

The lines that were deleted and inserted, with three lines around them. Each line is shown after its
mark; between hunks stands a line with three dots.
-/

namespace Remap.Report

open Diff (Tag Hunk)

def mark : Tag → Char
  | .delete => '-'
  | .insert => '+'
  | .keep => ' '

/-- A line after its mark; a line without an end gets one. -/
def markedLine (tag : Tag) (line : List Char) : List Char :=
  mark tag :: line ++ if Diff.hasEnd line then [] else ['\n']

/-- A line after its mark, in the colour of the mark. -/
def diffLine (t : Theme) (tag : Tag) (line : List Char) : List Char :=
  let shown := markedLine tag line
  match tag with
  | .delete => t.paint .red shown
  | .insert => t.paint .green shown
  | .keep => shown

def hunk (t : Theme) (h : Hunk (List Char)) : List Char :=
  h.flatMap fun (tag, line) => diffLine t tag line

def contextLines : Nat := 3

/-- The differences between two texts. -/
def diff (t : Theme) (old new : List Char) : List Char :=
  Text.join (t.paint .dim ['.', '.', '.', '\n'])
    ((Diff.hunks contextLines (Diff.cutLines old) (Diff.cutLines new)).map (hunk t))

end Remap.Report
