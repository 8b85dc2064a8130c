import Remap.Files.Access
/-!
# Looking at files

What a program may ask about the files around it. `Look m` answers in a monad `m`, and
`FileTree.look` answers from a tree, where nothing but the answer comes of a question.
-/

namespace Remap

structure Look (m : Type → Type) where
  isDirectory : Path → m Bool
  /-- Whether a path leads to a file or directory. -/
  leadsSomewhere : Path → m Bool
  /-- The entries of the directory to which a path leads, in any order; none if it leads to
  something else. -/
  list : Path → m (List Listed)
  read : Path → m (Except FileError (List Char))

def FileTree.look (t : FileTree) (current : Location) : Look Id where
  isDirectory p := t.isDirectory current p
  leadsSomewhere p := t.leadsSomewhere current p
  list p := t.list current p
  read p := t.read current p

end Remap
