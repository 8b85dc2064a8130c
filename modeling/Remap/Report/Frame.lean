import Remap.Report.Theme
/-!
# The report

What the program says of a run: the command line that it amounts to, the header with the two files,
a sample of the new text in a frame, the closing line, and failures.
-/

namespace Remap.Report

/-- The options of a run as they are written on a command line. -/
def options (dryRun : Bool) (input mapping : List Char) (output : Option (List Char)) :
    List (List Char) :=
  (if dryRun then ["--dry-run".toList] else []) ++
  ["--in=".toList ++ input, "--map=".toList ++ mapping] ++
  (match output with
    | some out => ["--out=".toList ++ out]
    | none => [])

/-- The run as a command line, under a heading. -/
def banner (t : Theme) (dryRun : Bool) (input mapping : List Char) (output : Option (List Char)) :
    List Char :=
  let heading := (if dryRun then "Simulating:" else "Running:").toList
  ['\n'] ++ t.paint .dim heading ++ "\nreplace-text ".toList ++
    Text.join [' '] (options dryRun input mapping output) ++ ['\n']

/-- The two files of a run. -/
def header (t : Theme) (input target : List Char) : List Char :=
  let s := t.symbols
  t.paint .green [s.done] ++ "  Replacing text from ".toList ++ t.paint .cyan input ++
    ['\n', s.bar, '\n', s.branch, s.dash] ++ " Writing to ".toList ++ t.paint .yellow target ++
    ['\n', s.bar]

/-- The first lines of a text, in a frame. -/
def sample (t : Theme) (text : List Char) (lines : Nat) : List Char :=
  let s := t.symbols
  let shown := ((Text.splitAt (· == '\n') text).take lines).flatMap fun l => s.bar :: l ++ ['\n']
  [s.branch, s.dash, ' '] ++ t.paint .dim "Sample output:".toList ++ ['\n'] ++ shown ++
    [s.barEnd, s.dash, s.dash] ++ t.paint .green [s.success]

/-- The closing line of a run that has written a file. -/
def finished (t : Theme) (target : List Char) : List Char :=
  let s := t.symbols
  [s.barEnd] ++ t.paint .green [s.success] ++ " Finished writing changes to ".toList ++
    t.paint .green target ++ ['\n']

def failure (t : Theme) (message : List Char) : List Char :=
  ['\n'] ++ t.paint .red [t.symbols.failed] ++ [' '] ++ message ++ ['\n']

end Remap.Report
