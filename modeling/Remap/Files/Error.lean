/-!
# File errors

Why a path could not be read or written, in the wording of the operating system.
-/

namespace Remap

/-- Why a file could not be reached, read or written. -/
inductive FileError
  | notFound
  | alreadyExists
  | notDirectory
  | isDirectory
  | nameTooLong
  | tooManyLinks
  | nulInName
  | notText
  /-- Any other reason, in its own words. -/
  | other (words : List Char)
  deriving DecidableEq, Repr

def FileError.message : FileError → List Char
  | notFound => "No such file or directory (os error 2)".toList
  | alreadyExists => "File exists (os error 17)".toList
  | notDirectory => "Not a directory (os error 20)".toList
  | isDirectory => "Is a directory (os error 21)".toList
  | nameTooLong => "File name too long (os error 36)".toList
  | tooManyLinks => "Too many levels of symbolic links (os error 40)".toList
  | nulInName => "file name contained an unexpected NUL byte".toList
  | notText => "stream did not contain valid UTF-8".toList
  | other words => words

end Remap
