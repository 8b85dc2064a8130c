import Remap.Files.Look
import Remap.Text.Blank
import Remap.Unicode.Lowercase
/-!
# Listing and searching directories

A listing shows the entries of one directory: directories first, each with a slash behind it, and
in either group by name without regard to case, then by the name itself. Only those are shown whose
text contains the term that is looked for, again without regard to case.

`searchRoot` finds the directory in which to look for a path that was typed only in part, and
`suggestions` lists what might have been meant by a path that leads nowhere.
-/

namespace Remap

namespace Listed

/-- The order of names: without regard to case, then as they are. -/
def compareNames (a b : List Char) : Ordering :=
  (compare (Unicode.lowercase a) (Unicode.lowercase b)).then (compare a b)

def before (a b : Listed) : Bool :=
  if a.isDirectory == b.isDirectory then (compareNames a.name b.name).isLE else a.isDirectory

/-- The text of an entry of `dir`: its path from `root` on if it is below `root`, with a slash
behind a directory. -/
def shown (dir root : Path) (e : Listed) : List Char :=
  let path := dir.join ⟨e.name⟩
  ((path.stripPrefix? root).getD path).text ++ if e.isDirectory then ['/'] else []

end Listed

/-- Whether a text contains a term, without regard to case. -/
def mentions (term text : List Char) : Bool :=
  Text.contains (Unicode.lowercase term) (Unicode.lowercase text)

/-- The texts of the entries of `dir` that mention a term, in order. -/
def listing (term : List Char) (dir root : Path) (entries : List Listed) : List (List Char) :=
  ((entries.mergeSort Listed.before).map (Listed.shown dir root)).filter (mentions term)

/-- A single dash stands for no directory. -/
def isDash (p : Path) : Bool := p.same ⟨['-']⟩

variable {m : Type → Type} [Monad m]

def listDirectory (look : Look m) (term : List Char) (dir root : Path) : m (List (List Char)) := do
  if isDash dir then return []
  return listing term dir root (← look.list dir)

/-- The first directory on the way up from `p` to `root`. -/
def climb (look : Look m) (root p : Path) : m Path := do
  if ← look.isDirectory p then return p
  if p.same root then return p
  match _h : p.parent? with
  | some above => climb look root above
  | none => return root
termination_by p.text.length
decreasing_by exact Path.length_of_parent? _h

/-- The deepest directory on the way from `root` to a path that was typed in part. -/
def searchRoot (look : Look m) (term : List Char) (root : Path) : m Path :=
  climb look root (root.join ⟨term⟩)

def search (look : Look m) (term : List Char) (root : Path) : m (List (List Char)) := do
  let term := Text.trim term
  listDirectory look term (← searchRoot look term root) root

/-- At most `limit` entries of the directory of `p` that mention the name of `p` without its
extension. -/
def suggestions (look : Look m) (p : Path) (limit : Nat) : m (List (List Char)) := do
  match p.stem?, p.parent? with
  | some stem, some dir =>
    if dir.text = [] then return []
    if ← look.isDirectory dir then
      let found ← listDirectory look stem dir dir
      return (found.take limit).map fun name => (dir.join ⟨name⟩).text
    return []
  | _, _ => return []

inductive FileProblem
  | missing
  | directory
  /-- It has not the extension that is expected. -/
  | extension (expected : List Char)
  deriving DecidableEq, Repr

def FileProblem.message : FileProblem → List Char
  | missing => "File does not exist.".toList
  | directory => "You must select a file, not a folder.".toList
  | extension e => "Invalid file extension. Please use \"".toList ++ e ++ ['"']

/-- The extension of a path in lower case with a dot in front, empty if there is none. -/
def Path.dottedExtension (p : Path) : List Char :=
  match p.extension? with
  | some e => '.' :: Unicode.lowercase e
  | none => []

/-- The first problem with a path that has to lead to a file, perhaps with a certain extension in
either case. -/
def fileProblem? (look : Look m) (p : Path) (extension : Option (List Char)) :
    m (Option FileProblem) := do
  if !(← look.leadsSomewhere p) then return some .missing
  if ← look.isDirectory p then return some .directory
  match extension with
  | none => return none
  | some e =>
    if p.dottedExtension = Unicode.lowercase e then return none
    return some (.extension e)

end Remap
