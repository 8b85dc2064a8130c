import Remap.Command.Run
/-!
# The program

Runs a command line on the files of the machine. Everything that is decided is decided in
`Remap.plan` and `Remap.Saving.exit`; here questions about files are put to the operating system,
and its errors are put into the words of `FileError`.
-/

namespace Remap

/-- The error with a number of the operating system, which is sometimes given as its negative. -/
def FileError.ofNumber? (n : UInt32) : Option FileError :=
  match (if n < 0x80000000 then n else 0 - n) with
  | 2 => some .notFound
  | 17 => some .alreadyExists
  | 20 => some .notDirectory
  | 21 => some .isDirectory
  | 36 => some .nameTooLong
  | 40 => some .tooManyLinks
  | _ => none

def FileError.ofSystem (e : IO.Error) : FileError :=
  let number :=
    match e with
    | .noFileOrDirectory _ n _ | .alreadyExists _ n _ | .inappropriateType _ n _
    | .invalidArgument _ n _ => n
    | _ => 0
  (ofNumber? number).getD (.other (toString e).toList)

def attempt {α : Type} (act : IO α) : IO (Except FileError α) := do
  try
    return .ok (← act)
  catch e =>
    return .error (.ofSystem e)

/-- Whether an action succeeds and gives `true`. -/
def holds (act : IO Bool) : IO Bool := do
  match ← attempt act with
  | .ok b => return b
  | .error _ => return false

/-- A path as the operating system takes it. -/
def Path.spelled (p : Path) : String := String.ofList p.text

def readText (p : Path) : IO (Except FileError (List Char)) := do
  match ← attempt (IO.FS.readBinFile p.spelled) with
  | .error e => return .error e
  | .ok bytes =>
    match Content.ofBytes bytes with
    | .text cs => return .ok cs
    | .binary _ => return .error .notText

/-- Answers from the machine, for relative paths from the directory in which the program runs. -/
def systemLook : Look IO where
  isDirectory p := holds do
    if p.text = [] then return false
    return (← ((← IO.currentDir) / p.spelled).metadata).type == .dir
  leadsSomewhere p := holds do
    if p.text = [] then return false
    discard ((← IO.currentDir) / p.spelled).metadata
    return true
  list p := do
    match ← attempt do ((← IO.currentDir) / p.spelled).readDir with
    | .error _ => return []
    | .ok entries =>
      entries.toList.mapM fun entry => do
        let isDirectory ← holds do
          return (← entry.path.symlinkMetadata).type == .dir
        return ⟨entry.fileName.toList, isDirectory⟩
  read := readText

/-- Saves a text, and makes the directories that are missing above it. -/
def Saving.perform (s : Saving) : IO (Option SaveError) := do
  let dir := s.target.parent?.getD ⟨[]⟩
  let made ← attempt do
    if dir.text ≠ [] then IO.FS.createDirAll dir.spelled
  match made with
  | .error e => return some (.directory dir e)
  | .ok () =>
    match ← attempt (IO.FS.writeFile s.target.spelled (String.ofList s.text)) with
    | .error e => return some (.file s.target e)
    | .ok () => return none

end Remap

open Remap in
def main (args : List String) : IO UInt32 := do
  let directory : Remap.Path := ⟨(toString (← IO.currentDir)).toList⟩
  let home := (← IO.getEnv "HOME").map fun h => Remap.Path.mk h.toList
  let name := (← IO.getEnv "TERM").map String.toList
  let out ← IO.getStdout
  let err ← IO.getStderr
  let terminal : Terminal := ⟨name, ← out.isTty⟩
  let planned ← plan systemLook ⟨directory, home⟩ terminal (args.map String.toList)
  let e ← match planned with
    | .exit e => pure e
    | .save s => s.exit <$> s.perform
  err.putStr (String.ofList e.err)
  out.putStr (String.ofList e.out)
  out.flush
  return e.status.toUInt32
