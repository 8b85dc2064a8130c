import Remap.Command.Option
/-!
# Usage

Why a command line is refused, the wording of it, and what is printed when help or the version is
asked for.
-/

namespace Remap

/-- Why a text is no number. -/
inductive CountProblem
  | empty
  | notDigit
  | tooLarge
  deriving DecidableEq, Repr

def CountProblem.message : CountProblem → List Char
  | empty => "cannot parse integer from empty string".toList
  | notDigit => "invalid digit found in string".toList
  | tooLarge => "number too large to fit in target type".toList

/-- Why a command line is not carried out. -/
inductive UsageError
  | unexpectedArgument (text : List Char)
  /-- A value for an option that has none. -/
  | unexpectedValue (o : CommandOption) (value : List Char)
  | missingValue (o : CommandOption)
  | invalidCount (o : CommandOption) (value : List Char) (problem : CountProblem)
  | repeated (o : CommandOption)
  /-- An option with others that it excludes. -/
  | excluded (o : CommandOption) (others : List CommandOption)
  /-- An option that another one needs. -/
  | missingOption (o : CommandOption)
  /-- Help was asked for. -/
  | help
  /-- The version was asked for. -/
  | version
  deriving DecidableEq, Repr

def programName : List Char := "replace-text".toList

def versionText : List Char := programName ++ " 0.1.0\n".toList

/-- What the program does, and its options. -/
def helpText : List Char :=
  "Replace text from a file using a rules map.

Usage: replace-text [OPTIONS]

Options:
  -i, --in <FILE>      Input file to modify / copy
  -m, --map <FILE>     Mapping file with .txt extension and arrow rules: input => output
  -o, --out [<FILE>]   Output file (omit value to force overwrite)
  -d, --dry-run        Simulate output without affecting files
      --diff           Show a diff instead of a sample in dry-run mode
      --lines <N>      Number of lines shown in the dry-run sample [default: 10]
      --search <TERM>  List files and directories matching a partial path, then exit
      --no-color       Disable colored output
      --verbose        Enable verbose output
  -h, --help           Print help
  -V, --version        Print version
".toList

def quoted (text : List Char) : List Char := ['\''] ++ text ++ ['\'']

/-- Options, each on a line of its own. -/
def optionLines (os : List CommandOption) : List Char :=
  os.flatMap fun o => "\n  ".toList ++ o.shown

namespace UsageError

/-- What is wrong with the command line. -/
def problem : UsageError → List Char
  | unexpectedArgument text => "unexpected argument ".toList ++ quoted text ++ " found".toList
  | unexpectedValue o value =>
    "unexpected value ".toList ++ quoted value ++ " for ".toList ++ quoted o.shown ++
      " found; no more were expected".toList
  | missingValue o =>
    "a value is required for ".toList ++ quoted o.shown ++ " but none was supplied".toList
  | invalidCount o value p =>
    "invalid value ".toList ++ quoted value ++ " for ".toList ++ quoted o.shown ++ [':', ' '] ++
      p.message
  | repeated o =>
    "the argument ".toList ++ quoted o.shown ++ " cannot be used multiple times".toList
  | excluded o others =>
    "the argument ".toList ++ quoted o.shown ++ " cannot be used with".toList ++
      (match others with
        | [other] => ' ' :: quoted other.shown
        | _ => ':' :: optionLines others)
  | missingOption o =>
    "the following required arguments were not provided:".toList ++ optionLines [o]
  | help | version => []

def message (e : UsageError) : List Char :=
  "error: ".toList ++ e.problem ++
    "\n\nUsage: replace-text [OPTIONS]\n\nFor more information, try '--help'.\n".toList

end UsageError
end Remap
