import Remap.Text.Search
/-!
# Paths

A path is kept as it is written. Its parts stand between slashes, and a part that is empty or a
single dot changes nothing, unless the dot begins a relative path. `Path.steps` lists what is left,
and two paths are the same if their steps are. What the other functions give, such as
`Path.parent?`, is again as it was written, without the idle parts at its ends.

Main statement: `Path.length_of_parent?`, by which going up from parent to parent comes to an end.
-/

namespace Remap

structure Path where
  text : List Char
  deriving DecidableEq, Repr

namespace Path

/-- What a part of a path says. -/
inductive Step
  /-- The slash in front of an absolute path. -/
  | top
  /-- The dot in front of a relative path. -/
  | here
  /-- Two dots: one directory up. -/
  | up
  | name (text : List Char)
  deriving DecidableEq, Repr

def Step.leadText : Step → List Char
  | top => ['/']
  | here => ['.']
  | _ => []

/-- The parts of a text between slashes. -/
def parts (text : List Char) : List (List Char) := Text.splitAt (· == '/') text

/-- A part that changes nothing. -/
def idle (part : List Char) : Bool := part == [] || part == ['.']

/-- The text of parts with slashes between them. -/
def ofParts (ps : List (List Char)) : List Char := Text.join ['/'] ps

/-- The parts without the idle ones at the end. -/
def trimParts (ps : List (List Char)) : List (List Char) := (ps.reverse.dropWhile idle).reverse

/-- The step of a part, unless it is idle. -/
def stepOf (part : List Char) : Option Step :=
  if idle part then none else if part = ['.', '.'] then some .up else some (.name part)

/-- The step in front of a text, and the text behind it. -/
def cutLead : List Char → Option Step × List Char
  | '/' :: rest => (some .top, rest)
  | ['.'] => (some .here, [])
  | '.' :: '/' :: rest => (some .here, '/' :: rest)
  | text => (none, text)

def leadText (lead : Option Step) : List Char := (lead.map Step.leadText).getD []

theorem leadText_cutLead (text : List Char) :
    leadText (cutLead text).1 ++ (cutLead text).2 = text := by
  unfold cutLead
  split <;> rfl

/-- The step in front and the parts behind it. -/
def cut (p : Path) : Option Step × List (List Char) :=
  ((cutLead p.text).1, parts (cutLead p.text).2)

def steps (p : Path) : List Step := p.cut.1.toList ++ p.cut.2.filterMap stepOf

/-- Whether two paths have the same steps. -/
def same (p q : Path) : Bool := p.steps == q.steps

def isAbsolute (p : Path) : Bool := p.text.head? == some '/'

/-- The path that leads on from `p` by `q`: an absolute `q` stands for itself. -/
def join (p q : Path) : Path :=
  if q.isAbsolute || p.text == [] then q
  else if p.text.getLast? = some '/' then ⟨p.text ++ q.text⟩
  else ⟨p.text ++ '/' :: q.text⟩

/-- The path without its last step; none is left of `/` and of the empty path. -/
def parent? (p : Path) : Option Path :=
  match p.cut.2.reverse.dropWhile idle with
  | _ :: front => some ⟨leadText p.cut.1 ++ ofParts (front.dropWhile idle).reverse⟩
  | [] => if p.cut.1 = some .here then some ⟨[]⟩ else none

/-- The last step, if it is a name. -/
def fileName? (p : Path) : Option (List Char) :=
  match p.steps.getLast? with
  | some (.name n) => some n
  | _ => none

/-- A name before its last dot and after it. A name without a dot, or with none but the one in
front, has no extension. -/
def cutName (name : List Char) : List Char × Option (List Char) :=
  match name.reverse.dropWhile (· != '.') with
  | _ :: c :: front => ((c :: front).reverse, some (name.reverse.takeWhile (· != '.')).reverse)
  | _ => (name, none)

def stem? (p : Path) : Option (List Char) := p.fileName?.map fun n => (cutName n).1

/-- The extension of the name, without the dot. -/
def extension? (p : Path) : Option (List Char) := p.fileName?.bind fun n => (cutName n).2

/-- The parts that are left when they begin with the given steps. -/
def dropSteps : List Step → List (List Char) → Option (List (List Char))
  | [], ps => some (ps.dropWhile idle)
  | _ :: _, [] => none
  | s :: ss, p :: ps =>
    if idle p then dropSteps (s :: ss) ps
    else if stepOf p = some s then dropSteps ss ps
    else none

/-- What is left of `p` when it begins with the steps of `base`. -/
def stripPrefix? (p base : Path) : Option Path :=
  match base.steps, p.cut with
  | [], (lead, ps) => some ⟨leadText lead ++ ofParts (trimParts ps)⟩
  | s :: ss, (some lead, ps) =>
    if s = lead then (dropSteps ss ps).map fun rest => ⟨ofParts (trimParts rest)⟩ else none
  | ss, (none, ps) => (dropSteps ss ps).map fun rest => ⟨ofParts (trimParts rest)⟩

/-! ## A parent is shorter -/

theorem length_ofParts_dropWhile (ps : List (List Char)) :
    (ofParts (ps.dropWhile idle).reverse).length ≤ (ofParts ps.reverse).length := by
  induction ps with
  | nil => simp
  | cons p ps ih =>
    rw [List.dropWhile_cons]
    split
    · refine Nat.le_trans ih ?_
      rw [List.reverse_cons]
      by_cases hs : ps.reverse = []
      · simp [hs, ofParts, Text.join]
      · simp [ofParts, Text.join_append hs]
    · exact Nat.le_refl _

theorem length_of_parent? {p q : Path} (h : p.parent? = some q) :
    q.text.length < p.text.length := by
  have hp : p.text = leadText p.cut.1 ++ ofParts p.cut.2 := by
    simp [cut, ofParts, parts, Text.join_splitAt, leadText_cutLead]
  unfold parent? at h
  split at h
  next last front hf =>
    cases h
    have hlast : idle last = false := by
      have := List.head?_dropWhile_not idle p.cut.2.reverse
      simpa [hf] using this
    have hne : last ≠ [] := by rintro rfl; simp [idle] at hlast
    -- the last part is not empty, and dropping idle parts before and after it adds nothing
    have h1 := length_ofParts_dropWhile p.cut.2.reverse
    rw [hf, List.reverse_reverse, List.reverse_cons] at h1
    have h2 := length_ofParts_dropWhile front
    have h3 : (ofParts front.reverse).length < (ofParts (front.reverse ++ [last])).length := by
      have := List.length_pos_iff.2 hne
      by_cases hs : front.reverse = []
      · simp [hs, ofParts, Text.join, this]
      · simp [ofParts, Text.join_append hs, Text.join]
    have := congrArg List.length hp
    simp only [List.length_append] at this ⊢
    omega
  next =>
    split at h
    next hh =>
      cases h
      rw [hp, hh]
      simp [leadText, Step.leadText]
    next => cases h

end Path

/-- What a path as typed is measured against. -/
structure Surroundings where
  /-- The directory in which the program runs. -/
  directory : Path
  /-- The directory that `~` stands for. -/
  home : Option Path

/-- The path that a typed text stands for: `~` in front is the home directory, and a relative path
leads on from the current directory. -/
def Surroundings.fullPath (s : Surroundings) (typed : List Char) : Path :=
  s.directory.join <|
    match typed, s.home with
    | ['~'], some home => home
    | '~' :: '/' :: rest, some home => home.join ⟨rest.dropWhile (· == '/')⟩
    | _, _ => ⟨typed⟩

end Remap
