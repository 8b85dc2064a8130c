/-!
# Options

The options of the command line: how they are written, and whether a value follows them.
-/

namespace Remap

inductive Arity
  | none
  | atMostOne
  | one
  deriving DecidableEq, Repr

inductive CommandOption
  | input
  | mapping
  | output
  | dryRun
  | diff
  | lines
  | search
  | noColor
  | verbose
  | help
  | version
  deriving DecidableEq, Repr

namespace CommandOption

/-- All options, in the order in which they are explained. -/
def all : List CommandOption :=
  [input, mapping, output, dryRun, diff, lines, search, noColor, verbose, help, version]

/-- The name of an option, to be written after two dashes. -/
def long : CommandOption → List Char
  | input => "in".toList
  | mapping => "map".toList
  | output => "out".toList
  | dryRun => "dry-run".toList
  | diff => "diff".toList
  | lines => "lines".toList
  | search => "search".toList
  | noColor => "no-color".toList
  | verbose => "verbose".toList
  | help => "help".toList
  | version => "version".toList

/-- The letter of an option, to be written after one dash. -/
def short? : CommandOption → Option Char
  | input => some 'i'
  | mapping => some 'm'
  | output => some 'o'
  | dryRun => some 'd'
  | help => some 'h'
  | version => some 'V'
  | _ => none

def arity : CommandOption → Arity
  | input | mapping | lines | search => .one
  | output => .atMostOne
  | _ => .none

/-- What stands for the value of an option. -/
def placeholder : CommandOption → List Char
  | input | mapping => " <FILE>".toList
  | output => " [<FILE>]".toList
  | lines => " <N>".toList
  | search => " <TERM>".toList
  | _ => []

/-- An option as it is explained. -/
def shown (o : CommandOption) : List Char := ['-', '-'] ++ o.long ++ o.placeholder

def ofLong? (name : List Char) : Option CommandOption := all.find? fun o => o.long == name

def ofShort? (c : Char) : Option CommandOption := all.find? fun o => o.short? == some c

/-- Whether two options exclude each other: what is searched for is not a file to convert. -/
def excludes (o p : CommandOption) : Bool :=
  let files := [input, mapping, output]
  (o == search && files.contains p) || (p == search && files.contains o)

end CommandOption
end Remap
