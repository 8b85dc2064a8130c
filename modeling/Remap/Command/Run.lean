import Remap.Command.Request
import Remap.Files.Conversion
import Remap.Report.Frame
import Remap.Report.Diff
/-!
# Running a command line

A run looks at the files and then either ends or saves one text: `plan` decides which, and
`Saving.exit` says how a run ends that has saved, or has failed to. Nothing else is ever written, so
a run changes a file tree by `FileTree.save` or not at all, as `FileTree.run` shows.
-/

namespace Remap

/-- How a run ends, and what it has printed. -/
structure Exit where
  status : Nat
  out : List Char := []
  err : List Char := []
  deriving DecidableEq, Repr

/-- A text that is to be saved, with what is printed before. -/
structure Saving where
  target : Path
  text : List Char
  theme : Report.Theme
  out : List Char
  err : List Char
  deriving DecidableEq, Repr

/-- What a run does once it has looked at the files. -/
inductive Plan
  | exit (e : Exit)
  | save (s : Saving)
  deriving DecidableEq, Repr

structure Terminal where
  /-- What the terminal is called, if that is known. -/
  name : Option (List Char)
  /-- Whether the output goes to a terminal at all. -/
  present : Bool
  deriving DecidableEq, Repr

/-- A text whose lines after the first are set in by four spaces. -/
def indent (text : List Char) : List Char :=
  text.flatMap fun c => if c == '\n' then "\n    ".toList else [c]

/-! ## The log -/

def warning (text : List Char) : List Char := "[WARN ] ".toList ++ indent text ++ ['\n']

def detail (text : List Char) : List Char := "[DEBUG] ".toList ++ indent text ++ ['\n']

/-- The log of an entry of a mapping file: a warning if its pattern was rejected, and its rule among
the details. -/
def entryLog (verbose : Bool) (e : Mapping.Entry) : List Char :=
  (match e.rejection with
    | some r => warning r.message
    | none => []) ++
  (if verbose then
    detail ("line ".toList ++ (toString e.line).toList ++ [':', ' '] ++ e.rule.matcher.toText ++
      " => ".toList ++ e.rule.replacement)
  else [])

/-- The log of a conversion by the mapping file `p`. -/
def attemptLog (verbose : Bool) (p : Path) (a : Attempt) : List Char :=
  a.entries.flatMap (entryLog verbose) ++
  (match a.result with
    | .ok _ =>
      if verbose then
        detail ((toString a.entries.length).toList ++ " rules loaded from ".toList ++ p.text)
      else []
    | .error _ => [])

/-- Printed when a conversion changes nothing. -/
def unchangedNote : List Char :=
  "Warning: No replacements were made. Check if the patterns exist in the input.\n".toList

/-! ## Ends of a run -/

def UsageError.exit : UsageError → Exit
  | help => { status := 0, out := helpText }
  | version => { status := 0, out := versionText }
  | e => { status := 2, err := e.message }

def Refusal.exit (r : Refusal) : Exit where
  status := 1
  err := "Error: Failed to parse arguments\n\nCaused by:\n    ".toList ++ indent r.message ++ ['\n']

def failureReport (t : Report.Theme) (message : List Char) : List Char :=
  Report.failure t ("Error: ".toList ++ message)

/-- The end of a run after its text was saved, or was not. -/
def Saving.exit (s : Saving) : Option SaveError → Exit
  | none => { status := 0, out := s.out ++ Report.finished s.theme s.target.text, err := s.err }
  | some e => { status := 1, out := s.out, err := s.err ++ failureReport s.theme e.message }

/-! ## Requests -/

/-- The command line and the files of a request, as they are reported. -/
def Request.heading (r : Request) (t : Report.Theme) : List Char :=
  let output :=
    match r.mode with
    | .file p => some p.text
    | _ => none
  let target := (r.target?.map Path.text).getD "stdout".toList
  Report.banner t r.arguments.dryRun r.input.text r.mapping.text output ++
    ['\n'] ++ Report.header t r.input.text target ++ ['\n']

/-- What a dry run shows of a conversion. -/
def Request.preview (r : Request) (t : Report.Theme) (c : Conversion) : List Char :=
  if r.arguments.diff then Report.diff t c.input c.output
  else Report.sample t c.output r.arguments.lines ++ ['\n']

/-- What is done with a conversion. -/
def Request.deliver (r : Request) (t : Report.Theme) (c : Conversion) (log : List Char) : Plan :=
  let err := log ++ if c.changed then [] else unchangedNote
  if r.arguments.dryRun then
    .exit { status := 0, out := r.heading t ++ r.preview t c, err }
  else
    match r.target? with
    | none => .exit { status := 0, out := c.output, err }
    | some target => .save { target, text := c.output, theme := t, out := r.heading t, err }

variable {m : Type → Type} [Monad m]

/-- What a request leads to. -/
def Request.plan (r : Request) (look : Look m) (s : Surroundings) (t : Report.Theme) : m Plan := do
  match r.mode with
  | .search term =>
    let found ← search look term s.directory
    return .exit { status := 0, out := found.flatMap (· ++ ['\n']) }
  | _ =>
    let attempt ← convert look r.input r.mapping
    let log := attemptLog r.arguments.verbose r.mapping attempt
    match attempt.result with
    | .error e => return .exit { status := 1, err := log ++ failureReport t e.message }
    | .ok c => return r.deliver t c log

def Arguments.theme (a : Arguments) (terminal : Terminal) : Report.Theme :=
  .ofTerminal terminal.name (terminal.present && !a.noColor)

def plan (look : Look m) (s : Surroundings) (terminal : Terminal)
    (commandLine : List (List Char)) : m Plan := do
  match Arguments.parse commandLine with
  | .error e => return .exit e.exit
  | .ok a =>
    match ← a.resolve look s with
    | .error r => return .exit r.exit
    | .ok r => r.plan look s (a.theme terminal)

/-- A run of a command line in a directory of a file tree: the tree after it, and how it ends. -/
def FileTree.run (t : FileTree) (current : Location) (home : Option Path) (terminal : Terminal)
    (commandLine : List (List Char)) : FileTree × Exit :=
  match (plan (t.look current) ⟨current.path, home⟩ terminal commandLine : Plan) with
  | .exit e => (t, e)
  | .save s =>
    let (after, problem) := t.save current s.target s.text
    (after, s.exit problem)

end Remap
