import Remap.Pattern.Basic
import Remap.Pattern.Token
import Remap.Text.Search
/-!
# Rules

A rule replaces what its matcher finds: a literal text, or a pattern. `Matcher.ofToken` reads a
matcher; a token that is written as a pattern but cannot be compiled stands for itself, with a
`Rejection` that says why. `applyAll` applies rules one after the other, each to what the one
before it gave.
-/

namespace Remap

inductive Matcher
  | literal (text : List Char)
  | pattern (p : Pattern)

/-- A token that is written as a pattern but was refused. -/
structure Rejection where
  token : List Char
  reason : PatternError
  deriving DecidableEq, Repr

def Rejection.message (r : Rejection) : List Char :=
  "Regex rejected, treating as string literal.\n  Pattern: ".toList ++ r.token ++
    "\n  Reason: ".toList ++ r.reason.message

namespace Matcher

def toText : Matcher → List Char
  | literal text => text
  | pattern p => p.toText

/-- Whether two matchers are written alike: the same literal, or the same source and flags. -/
def same : Matcher → Matcher → Bool
  | literal s, literal t => s == t
  | pattern p, pattern q => p.same q
  | _, _ => false

/-- The matcher of a token, and why it is no pattern if it looks like one. -/
def ofToken (token : List Char) : Matcher × Option Rejection :=
  match splitToken token with
  | none => (literal token, none)
  | some (body, letters) =>
    match Pattern.compile body letters with
    | .ok p => (pattern p, none)
    | .error reason => (literal token, some { token, reason })

end Matcher

/-- A matcher and what takes the place of its matches: a template for a pattern, and the text
itself for a literal. -/
structure Rule where
  matcher : Matcher
  replacement : List Char

def Rule.same (r s : Rule) : Bool := r.matcher.same s.matcher && r.replacement == s.replacement

/-- The text with the matches of a rule replaced. -/
def Rule.apply (r : Rule) (text : List Char) : List Char :=
  match r.matcher with
  | .literal l => Text.replaceAll l r.replacement text
  | .pattern p => p.replace text r.replacement

/-- Rules in the order in which they are applied. -/
abbrev RuleSet := List Rule

namespace RuleSet

def same : RuleSet → RuleSet → Bool
  | [], [] => true
  | r :: rs, s :: ss => r.same s && same rs ss
  | _, _ => false

/-- The text after all rules, each applied to what the one before it gave. -/
def applyAll (rules : RuleSet) (text : List Char) : List Char :=
  rules.foldl (fun t r => r.apply t) text

theorem applyAll_append (rs ss : RuleSet) (text : List Char) :
    applyAll (rs ++ ss) text = applyAll ss (applyAll rs text) := List.foldl_append

end RuleSet
end Remap
