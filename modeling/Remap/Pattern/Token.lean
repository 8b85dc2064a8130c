import Remap.Pattern.Flags
/-!
# Pattern tokens

A token is a pattern when it is written `/body/flags`: the body is what stands between the first
slash, which starts the token, and the last one. It is not empty and has no line feed, and every
character after the last slash is a flag letter. `splitToken` finds the two parts.
-/

namespace Remap

/-- What stands before and after the last occurrence of `x`. -/
def cutLast (x : Char) : List Char → Option (List Char × List Char)
  | [] => none
  | c :: cs =>
    match cutLast x cs with
    | some (before, after) => some (c :: before, after)
    | none => if c = x then some ([], cs) else none

/-- The body and the flag letters of a token written `/body/flags`. -/
def splitToken : List Char → Option (List Char × List Char)
  | '/' :: rest =>
    match cutLast '/' rest with
    | some (body, letters) =>
      if body ≠ [] ∧ '\n' ∉ body ∧ letters.all (fun c => (Flag.ofLetter? c).isSome) then
        some (body, letters)
      else none
    | none => none
  | _ => none

def isPatternToken (token : List Char) : Bool := (splitToken token).isSome

end Remap
