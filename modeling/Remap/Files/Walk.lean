import Remap.Files.Error
import Remap.Files.Tree
/-!
# Walking along a path

A walk goes through the parts of a path one by one. Each part is looked up in the directory that
was reached so far; at a link the walk goes on along the target of the link, and a walk that meets
too many links is given up. It ends at an entry, or at a name that is free in a directory.
-/

namespace Remap

inductive Spot
  /-- At a file or directory. -/
  | entry (place : Location)
  /-- At a name that is free in a directory. -/
  | free (dir : Location) (name : List Char)
  deriving DecidableEq, Repr

/-- The parts of a path that are not empty. -/
def Path.names (p : Path) : List (List Char) := (Path.parts p.text).filter (· ≠ [])

/-- The parts of a path to walk along. An empty part at the end says that the path ends with a
slash. -/
def Path.trail (p : Path) : List (List Char) :=
  if p.text.getLast? = some '/' ∧ p.names ≠ [] then p.names ++ [[]] else p.names

def maxPathBytes : Nat := 4095

def maxLinks : Nat := 40

namespace FileTree

/-- Walks from a place along the parts of a path. When the walk is for writing, a path to be
written may not end with a slash. -/
def walk (t : FileTree) (writing : Bool) (links : Nat) (place : Location) :
    List (List Char) → Except FileError Spot
  | [] => .ok (.entry place)
  | part :: rest =>
    -- asked for empty parts too, so that a path to a file may not end with a slash
    if t.at? place ≠ some .directory then .error .notDirectory
    else if Path.idle part then walk t writing links place rest
    else if part = ['.', '.'] then walk t writing links place.tail rest
    else if writing = true ∧ rest = [[]] then .error .isDirectory
    else if maxNameBytes < byteCount part then .error .nameTooLong
    else
      match t.at? (part :: place) with
      -- only the last name may be missing
      | none => if rest = [] then .ok (.free place part) else .error .notFound
      | some (.link target) =>
        match links with
        | 0 => .error .tooManyLinks
        | links + 1 =>
          -- a relative target is walked from the directory that holds the link
          walk t writing links (if target.isAbsolute then [] else place) (target.trail ++ rest)
      | some _ => walk t writing links (part :: place) rest
termination_by parts => (links, parts.length)

/-- The place where a walk along a path begins, if the path can be walked at all. -/
def entrance (current : Location) (p : Path) : Except FileError Location :=
  if '\x00' ∈ p.text then .error .nulInName
  else if p.text = [] then .error .notFound
  else if maxPathBytes < byteCount p.text then .error .nameTooLong
  else .ok (if p.isAbsolute then [] else current)

/-- Where a path leads from the current directory. -/
def locate (t : FileTree) (current : Location) (writing : Bool) (p : Path) :
    Except FileError Spot :=
  match entrance current p with
  | .error e => .error e
  | .ok place => t.walk writing maxLinks place p.trail

/-- The location of the entry to which a path leads. -/
def find (t : FileTree) (current : Location) (p : Path) : Except FileError Location :=
  match t.locate current false p with
  | .ok (.entry l) => .ok l
  | .ok (.free _ _) => .error .notFound
  | .error e => .error e

end FileTree
end Remap
