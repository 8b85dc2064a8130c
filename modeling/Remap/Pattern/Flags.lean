/-!
# Pattern flags

The letters after the closing slash of a pattern. Each may be given once; a repeated letter is
refused. `Flags.toText` writes them in the order `gimsuy`.
-/

namespace Remap

/-- One of the letters `gimsuy`. -/
inductive Flag
  /-- `g`: replace every match, not only the first. -/
  | everywhere
  /-- `i`: letters match in either case. -/
  | ignoreCase
  /-- `m`: `^` and `$` match at lines. -/
  | multiLine
  /-- `s`: `.` matches a line feed too. -/
  | dotAll
  /-- `u`: has no effect. -/
  | unicode
  /-- `y`: each match starts where the one before it ended. -/
  | sticky
  deriving DecidableEq, Repr

namespace Flag

/-- All flags, in the order in which they are written. -/
def all : List Flag := [everywhere, ignoreCase, multiLine, dotAll, unicode, sticky]

def letter : Flag → Char
  | everywhere => 'g'
  | ignoreCase => 'i'
  | multiLine => 'm'
  | dotAll => 's'
  | unicode => 'u'
  | sticky => 'y'

def ofLetter? : Char → Option Flag
  | 'g' => some everywhere
  | 'i' => some ignoreCase
  | 'm' => some multiLine
  | 's' => some dotAll
  | 'u' => some unicode
  | 'y' => some sticky
  | _ => none

theorem ofLetter?_letter (f : Flag) : ofLetter? f.letter = some f := by cases f <;> rfl

theorem letter_of_ofLetter? {c : Char} {f : Flag} (h : ofLetter? c = some f) : f.letter = c := by
  unfold ofLetter? at h
  split at h <;> cases h <;> rfl

end Flag

structure Flags where
  everywhere : Bool := false
  ignoreCase : Bool := false
  multiLine : Bool := false
  dotAll : Bool := false
  unicode : Bool := false
  sticky : Bool := false
  deriving DecidableEq, Repr

namespace Flags

def has (fs : Flags) : Flag → Bool
  | .everywhere => fs.everywhere
  | .ignoreCase => fs.ignoreCase
  | .multiLine => fs.multiLine
  | .dotAll => fs.dotAll
  | .unicode => fs.unicode
  | .sticky => fs.sticky

def insert (fs : Flags) : Flag → Flags
  | .everywhere => { fs with everywhere := true }
  | .ignoreCase => { fs with ignoreCase := true }
  | .multiLine => { fs with multiLine := true }
  | .dotAll => { fs with dotAll := true }
  | .unicode => { fs with unicode := true }
  | .sticky => { fs with sticky := true }

@[simp] theorem has_insert (fs : Flags) (f g : Flag) :
    (fs.insert f).has g = (decide (f = g) || fs.has g) := by
  cases f <;> cases g <;> rfl

theorem ext_has {fs gs : Flags} (h : ∀ f, fs.has f = gs.has f) : fs = gs := by
  cases fs; cases gs
  simp only [mk.injEq]
  exact ⟨h .everywhere, h .ignoreCase, h .multiLine, h .dotAll, h .unicode, h .sticky⟩

/-- Reads letters one by one into `fs`; other characters are passed over, and a letter whose flag
is already set is the error. -/
def readFrom (fs : Flags) : List Char → Except Char Flags
  | [] => .ok fs
  | c :: cs =>
    match Flag.ofLetter? c with
    | none => readFrom fs cs
    | some f => if fs.has f then .error c else readFrom (fs.insert f) cs

/-- The flags that a text of letters sets, or the first letter that comes twice. -/
def ofText? (raw : List Char) : Except Char Flags := readFrom {} raw

/-- The letters of the flags that are set, in the order `gimsuy`. -/
def toText (fs : Flags) : List Char := (Flag.all.filter fs.has).map Flag.letter

end Flags
end Remap
