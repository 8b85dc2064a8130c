import Remap.Files.Look
import Remap.Mapping.Parser
/-!
# Converting files

A conversion reads a file and a mapping file and gives the text of the one after the rules of the
other. `FileTree.save` writes the new text, and makes the directories that are missing above it.

Main statement: `convert_result`, by which a conversion of two readable texts is `computeOutput`.
-/

namespace Remap

/-- A text before and after its rules. -/
structure Conversion where
  input : List Char
  output : List Char
  deriving DecidableEq, Repr

def Conversion.changed (c : Conversion) : Bool := c.input != c.output

/-- Why there is nothing to convert, or no way to convert it. -/
inductive ConversionError
  | input (p : Path) (e : FileError)
  | mapping (p : Path) (e : FileError)
  | invalid (p : Path) (e : InvalidLine)
  deriving DecidableEq, Repr

def ConversionError.message : ConversionError → List Char
  | input p e => "Failed to read file: ".toList ++ p.text ++ [':', ' '] ++ e.message
  | mapping p e => "Failed to read mapping file: ".toList ++ p.text ++ [':', ' '] ++ e.message
  | invalid p e => "Failed to parse mapping file: ".toList ++ p.text ++ [':', ' '] ++ e.message

/-- What came of a conversion, and the entries of the mapping file as far as they were read. -/
structure Attempt where
  entries : List Mapping.Entry
  result : Except ConversionError Conversion

variable {m : Type → Type} [Monad m]

def readMapping (look : Look m) (p : Path) : m (Except ConversionError Mapping.Outcome) :=
  return ((← look.read p).map (Mapping.read {})).mapError (.mapping p)

/-- The rules of the mapping file `p`. -/
def Mapping.Outcome.rulesOf (o : Outcome) (p : Path) : Except ConversionError RuleSet :=
  o.rules.mapError (.invalid p)

/-- Converts the file `input` by the rules of the file `mapping`. -/
def convert (look : Look m) (input mapping : Path) : m Attempt := do
  match ← look.read input with
  | .error e => return ⟨[], .error (.input input e)⟩
  | .ok text =>
    match ← readMapping look mapping with
    | .error e => return ⟨[], .error e⟩
    | .ok o => return ⟨o.entries, (o.rulesOf mapping).map fun rules => ⟨text, rules.applyAll text⟩⟩

/-- A conversion of two texts that could be read gives the text after the rules, or the line that
is no rule. -/
theorem convert_result {look : Look Id} {input mapping : Path} {text rules : List Char}
    (hi : look.read input = .ok text) (hm : look.read mapping = .ok rules) :
    (convert look input mapping : Attempt).result =
      ((computeOutput text rules).map (Conversion.mk text)).mapError (.invalid mapping) := by
  have hm' : readMapping look mapping = Except.ok (Mapping.read {} rules) := by
    simp only [readMapping, hm]
    rfl
  simp only [convert, hi, hm', computeOutput, Mapping.parse]
  show (Mapping.Outcome.rulesOf _ _).map _ = _
  unfold Mapping.Outcome.rulesOf
  cases (Mapping.read {} rules).rules with
  | error e => rfl
  | ok rs => rfl

/-- Why a text could not be saved. -/
inductive SaveError
  | directory (p : Path) (e : FileError)
  | file (p : Path) (e : FileError)
  deriving DecidableEq, Repr

def SaveError.message : SaveError → List Char
  | directory p e => "Failed to create directory: ".toList ++ p.text ++ [':', ' '] ++ e.message
  | file p e => "Failed to write file: ".toList ++ p.text ++ [':', ' '] ++ e.message

/-- The tree after a text was written to a file, with the directories above it, and why this did
not succeed, if it did not. -/
def FileTree.save (t : FileTree) (current : Location) (target : Path) (text : List Char) :
    FileTree × Option SaveError :=
  let dir := target.parent?.getD ⟨[]⟩
  match t.makeDirectories current dir with
  | (t, some e) => (t, some (.directory dir e))
  | (t, none) =>
    match t.write current target (.text text) with
    | .ok t => (t, none)
    | .error e => (t, some (.file target e))

end Remap
