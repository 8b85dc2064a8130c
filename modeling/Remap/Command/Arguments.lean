import Remap.Command.Usage
import Remap.Text.Search
/-!
# Arguments

Reads a command line. An option is written with its name after two dashes or its letter after one,
and letters may be written together. Its value is attached to it, or is the next argument that is
not itself an option; then it is settled only when the next option comes, or at the end.

Each option may be given once. Some exclude each other, and one needs another.
-/

namespace Remap

inductive ArgumentForm
  /-- Two dashes: no options after them. -/
  | endOfOptions
  /-- A name, perhaps with a value after an equals sign. -/
  | long (name : List Char) (value : Option (List Char))
  | short (letters : List Char)
  | plain
  deriving DecidableEq, Repr

def ArgumentForm.ofText : List Char → ArgumentForm
  | ['-', '-'] => endOfOptions
  | '-' :: '-' :: text =>
    match Text.cutFirst ['='] text with
    | some (name, value) => long name (some value)
    | none => long text none
  | '-' :: c :: letters => short (c :: letters)
  | _ => plain

/-- An option that was given, with its value. -/
structure Given where
  option : CommandOption
  value : Option (List Char)
  deriving DecidableEq, Repr

/-- How large a number of lines may be. -/
def maxCount : Nat := 0xFFFFFFFFFFFFFFFF

def readDigits (n : Nat) : List Char → Except CountProblem Nat
  | [] => .ok n
  | c :: cs =>
    if c.isDigit then
      let n := n * 10 + (c.toNat - '0'.toNat)
      if maxCount < n then .error .tooLarge else readDigits n cs
    else .error .notDigit

/-- Reads a number, perhaps with a plus sign in front. -/
def readCount : List Char → Except CountProblem Nat
  | [] => .error .empty
  | ['+'] => .error .notDigit
  | '+' :: cs => readDigits 0 cs
  | cs => readDigits 0 cs

/-- What is wrong with an option and its value, after other options that were given. -/
def Given.problem? (g : Given) (before : List Given) : Option UsageError :=
  if g.option = .help then some .help
  else if g.option = .version then some .version
  else if g.option.arity = .one ∧ g.value = none then some (.missingValue g.option)
  else if before.any (·.option == g.option) then some (.repeated g.option)
  else
    match g.option, g.value with
    | .lines, some value =>
      match readCount value with
      | .ok _ => none
      | .error p => some (.invalidCount .lines value p)
    | _, _ => none

/-- The options that were given, and the last one as long as its value may still follow. -/
structure Reading where
  settled : List Given := []
  pending : Option Given := none
  deriving DecidableEq, Repr

namespace Reading

/-- One more option is settled. -/
def accept (settled : List Given) (g : Given) : Except UsageError (List Given) :=
  match g.problem? settled with
  | some e => .error e
  | none => .ok (settled ++ [g])

/-- All options are settled. -/
def settle (r : Reading) : Except UsageError (List Given) :=
  match r.pending with
  | some g => accept r.settled g
  | none => .ok r.settled

/-- The next option, without a value to follow. -/
def add (r : Reading) (g : Given) : Except UsageError Reading := do
  return { settled := ← accept (← r.settle) g }

/-- The next option, with a value that may follow. -/
def await (r : Reading) (o : CommandOption) : Except UsageError Reading := do
  return { settled := ← r.settle, pending := some ⟨o, none⟩ }

/-- Reads letters that are written together. -/
def letters (r : Reading) : List Char → Except UsageError Reading
  | [] => .ok r
  | c :: cs =>
    match CommandOption.ofShort? c with
    | none => .error (.unexpectedArgument ['-', c])
    | some o =>
      if o.arity = .none then
        match r.add ⟨o, none⟩ with
        | .ok r => r.letters cs
        | .error e => .error e
      else
        match cs with
        | [] => r.await o
        | '=' :: value => r.add ⟨o, some value⟩
        | value => r.add ⟨o, some value⟩

/-- Reads an option that is written with its name. -/
def named (r : Reading) (name : List Char) (value : Option (List Char)) :
    Except UsageError Reading :=
  match CommandOption.ofLong? name with
  | none => .error (.unexpectedArgument ('-' :: '-' :: name))
  | some o =>
    match value with
    | some v => if o.arity = .none then .error (.unexpectedValue o v) else r.add ⟨o, some v⟩
    | none => if o.arity = .none then r.add ⟨o, none⟩ else r.await o

/-- Reads an argument that is not an option: only a value is expected. -/
def value (r : Reading) (text : List Char) : Except UsageError Reading :=
  match r.pending with
  | some ⟨o, none⟩ => .ok { r with pending := some ⟨o, some text⟩ }
  | _ => .error (.unexpectedArgument text)

/-- Reads a command line to its end. -/
def run (r : Reading) : List (List Char) → Except UsageError (List Given)
  | [] => r.settle
  | text :: rest =>
    match ArgumentForm.ofText text with
    | .endOfOptions =>
      match rest with
      | [] => r.settle
      | next :: _ => .error (.unexpectedArgument next)
    | .long name value => do (← r.named name value).run rest
    | .short letters => do (← r.letters letters).run rest
    | .plain => do (← r.value text).run rest

end Reading

/-- The options that are excluded by one given before them, or that exclude it. -/
def excluded? (given : List Given) : Option UsageError :=
  given.findSome? fun g =>
    match (given.map Given.option).filter g.option.excludes with
    | [] => none
    | others => some (.excluded g.option others)

structure Arguments where
  input : Option (List Char) := none
  mapping : Option (List Char) := none
  /-- Whether to write a file, and which one, if not the input file. -/
  output : Option (Option (List Char)) := none
  dryRun : Bool := false
  diff : Bool := false
  lines : Nat := 10
  search : Option (List Char) := none
  noColor : Bool := false
  verbose : Bool := false
  deriving DecidableEq, Repr

namespace Arguments

/-- The value of an option, if it was given; the inner value is absent if it was given without. -/
def lookup (given : List Given) (o : CommandOption) : Option (Option (List Char)) :=
  (given.find? (·.option == o)).map Given.value

def ofGiven (given : List Given) : Arguments where
  input := (lookup given .input).join
  mapping := (lookup given .mapping).join
  output := lookup given .output
  dryRun := (lookup given .dryRun).isSome
  diff := (lookup given .diff).isSome
  lines :=
    match (lookup given .lines).join.map readCount with
    | some (.ok n) => n
    | _ => 10
  search := (lookup given .search).join
  noColor := (lookup given .noColor).isSome
  verbose := (lookup given .verbose).isSome

/-- Reads a command line, without the name of the program. -/
def parse (commandLine : List (List Char)) : Except UsageError Arguments :=
  match Reading.run {} commandLine with
  | .error e => .error e
  | .ok given =>
    match excluded? given with
    | some e => .error e
    | none =>
      let a := ofGiven given
      if a.diff && !a.dryRun then .error (.missingOption .dryRun) else .ok a

end Arguments
end Remap
