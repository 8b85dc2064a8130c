import Remap.Files.Walk
/-!
# Reading and writing files

What can be asked of a file tree by a path, and the two ways to change it: `FileTree.write` writes a
file, and `FileTree.makeDirectories` makes a directory and all that are missing above it.
-/

namespace Remap

/-- An entry of a directory as it is listed. A link is not a directory, wherever it leads. -/
structure Listed where
  name : List Char
  isDirectory : Bool
  deriving DecidableEq, Repr

namespace FileTree

def isDirectory (t : FileTree) (current : Location) (p : Path) : Bool :=
  match t.find current p with
  | .ok l => t.at? l = some .directory
  | .error _ => false

/-- Whether a path leads to a file or directory. -/
def leadsSomewhere (t : FileTree) (current : Location) (p : Path) : Bool :=
  (t.find current p).isOk

def list (t : FileTree) (current : Location) (p : Path) : List Listed :=
  match t.find current p with
  | .ok l => (t.children l).map fun (name, node) => ⟨name, node = .directory⟩
  | .error _ => []

def read (t : FileTree) (current : Location) (p : Path) : Except FileError (List Char) :=
  match t.find current p with
  | .error e => .error e
  | .ok l =>
    match t.at? l with
    | some (.file (.text cs)) => .ok cs
    | some (.file (.binary _)) => .error .notText
    | some .directory => .error .isDirectory
    | _ => .error .notFound

/-- The tree after a file was written. A link is followed, also to a file that is not there yet. -/
def write (t : FileTree) (current : Location) (p : Path) (content : Content) :
    Except FileError FileTree :=
  match t.locate current true p with
  | .error e => .error e
  | .ok (.free dir name) => .ok (t.put dir name (.file content))
  | .ok (.entry []) => .error .isDirectory
  | .ok (.entry (name :: dir)) =>
    if t.at? (name :: dir) = some .directory then .error .isDirectory
    else .ok (t.put dir name (.file content))

/-- The tree after a directory was made, in a directory that is there. -/
def makeDirectory (t : FileTree) (current : Location) (p : Path) : Except FileError FileTree :=
  match entrance current p with
  | .error e => .error e
  | .ok place =>
    match p.names.getLast? with
    | none => .error .alreadyExists
    | some last =>
      match t.walk false maxLinks place p.names.dropLast with
      | .error e => .error e
      -- all parts but the last are walked; the last one is not followed if it is a link
      | .ok (.free _ _) => .error .notFound
      | .ok (.entry dir) =>
        if t.at? dir ≠ some .directory then .error .notDirectory
        else if Path.idle last || last == ['.', '.'] then .error .alreadyExists
        else if maxNameBytes < byteCount last then .error .nameTooLong
        -- a link that leads nowhere is in the way as well
        else if (t.at? (last :: dir)).isSome then .error .alreadyExists
        else .ok (t.put dir last .directory)

/-- The tree after a directory and those missing above it were made, and why that came to an end
too early, if it did. -/
def makeDirectories (t : FileTree) (current : Location) (p : Path) :
    FileTree × Option FileError :=
  if p.text = [] then (t, none)
  else
    match t.makeDirectory current p with
    | .ok t => (t, none)
    -- only a missing name above is something to make up for
    | .error .notFound =>
      match _h : p.parent? with
      | none => (t, some .notFound)
      | some above =>
        match t.makeDirectories current above with
        | (t, some e) => (t, some e)
        | (t, none) =>
          match t.makeDirectory current p with
          | .ok t => (t, none)
          | .error e => (t, if t.isDirectory current p then none else some e)
    | .error e => (t, if t.isDirectory current p then none else some e)
termination_by p.text.length
decreasing_by exact Path.length_of_parent? _h

end FileTree
end Remap
