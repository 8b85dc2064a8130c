import Remap.Command.Arguments
import Remap.Files.Listing
/-!
# Requests

A request is a command line with its paths resolved. It is checked before it is carried out: the
input and the mapping lead to files, the mapping has the extension `.txt`, and a file to be written
has a name and an extension and is not a directory. The first check that fails gives the refusal.
-/

namespace Remap

/-- Where the new text goes. -/
inductive Mode
  | stdout
  /-- Back to the input file. -/
  | overwrite
  | file (p : Path)
  /-- There is none: files are listed that match a path typed in part. -/
  | search (term : List Char)
  deriving DecidableEq, Repr

/-- What a file is named for on the command line. -/
inductive Role
  | input
  | mapping
  | output
  deriving DecidableEq, Repr

def Role.label : Role → List Char
  | input => "Input file".toList
  | mapping => "Mapping file".toList
  | output => "Output file".toList

/-- Why arguments make no request. -/
inductive Refusal
  | noInput
  | noMapping
  /-- A path that cannot be used, and others that might have been meant. -/
  | unusable (role : Role) (p : Path) (problem : FileProblem) (suggested : List (List Char))
  /-- The file to be written has no name or no extension. -/
  | unnamedOutput
  deriving DecidableEq, Repr

def Refusal.message : Refusal → List Char
  | noInput => "Input file is required. Use -i/--in FILE".toList
  | noMapping => "Mapping file is required. Use -m/--map FILE".toList
  | unusable role p problem suggested =>
    role.label ++ [' '] ++ p.text ++ [':', ' '] ++ problem.message ++
      if suggested = [] then []
      else " Did you mean: ".toList ++ Text.join [',', ' '] suggested ++ ['?']
  | unnamedOutput => "Output file must have a name and extension. Eg. path/to/file.ext".toList

/-- Arguments, with the mode and the paths that they stand for once they are checked. -/
structure Request where
  arguments : Arguments
  mode : Mode
  input : Path
  mapping : Path
  deriving DecidableEq, Repr

def Arguments.unchecked (a : Arguments) : Request := ⟨a, .stdout, ⟨[]⟩, ⟨[]⟩⟩

/-- The file to be written, if any. -/
def Request.target? (r : Request) : Option Path :=
  match r.mode with
  | .overwrite => some r.input
  | .file p => some p
  | .stdout | .search _ => none

def mappingExtension : List Char := ['.', 't', 'x', 't']

/-- How many paths are suggested for one that leads nowhere. -/
def maxSuggestions : Nat := 5

/-- Whether a path ends with a name that has an extension: not `name`, `.name` or `name.`. -/
def Path.hasNameAndExtension (p : Path) : Bool :=
  (match p.stem? with
    | some stem => stem.head? != some '.' && stem != []
    | none => false) &&
  (match p.extension? with
    | some e => e != []
    | none => false)

variable {m : Type → Type} [Monad m]

/-- The refusal of a path that cannot be used as a file. -/
def refusal? (look : Look m) (role : Role) (p : Path) (extension : Option (List Char)) :
    m (Option Refusal) := do
  match ← fileProblem? look p extension with
  | none => return none
  | some .missing => return some (.unusable role p .missing (← suggestions look p maxSuggestions))
  | some problem => return some (.unusable role p problem [])

/-- Where the text goes that is asked for by `output`. -/
def resolveMode (look : Look m) (s : Surroundings) (output : Option (Option (List Char))) :
    m (Except Refusal Mode) := do
  match output with
  | none => return .ok .stdout
  | some none => return .ok .overwrite
  | some (some typed) =>
    let p := s.fullPath (Text.trim typed)
    if !p.hasNameAndExtension then return .error .unnamedOutput
    if ← look.isDirectory p then return .error (.unusable .output p .directory [])
    return .ok (.file p)

/-- Checks the arguments of a request, and sets its paths and at last its mode. The first check that
fails gives the refusal, and leaves the mode as it was. -/
def Request.check (r : Request) (look : Look m) (s : Surroundings) :
    m (Request × Option Refusal) := do
  match r.arguments.search, r.arguments.input, r.arguments.mapping with
  | some term, _, _ => return ({ r with mode := .search term }, none)
  | none, none, _ => return (r, some .noInput)
  | none, some _, none => return (r, some .noMapping)
  | none, some input, some mapping =>
    let input := s.fullPath (Text.trim input)
    let mapping := s.fullPath (Text.trim mapping)
    -- the paths stay resolved in a request that is refused below; the mode is set at the end only
    let r := { r with input, mapping }
    match ← refusal? look .input input none with
    | some e => return (r, some e)
    | none =>
      match ← refusal? look .mapping mapping (some mappingExtension) with
      | some e => return (r, some e)
      | none =>
        match ← resolveMode look s r.arguments.output with
        | .error e => return (r, some e)
        | .ok mode => return ({ r with mode }, none)

/-- The request of arguments, or the first reason to refuse them. -/
def Arguments.resolve (a : Arguments) (look : Look m) (s : Surroundings) :
    m (Except Refusal Request) := do
  match ← a.unchecked.check look s with
  | (r, none) => return .ok r
  | (_, some e) => return .error e

end Remap
