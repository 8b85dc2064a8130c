import Remap.Unicode.Script
import Remap.Unicode.Age
import Remap.Unicode.Boundary
/-!
# Properties by name

`Property.named` finds the set of a name such as `Greek`, `Lu` or `alphabetic`, and
`Property.valued` that of a name and a value such as `script` and `Greek`. Names are compared
without regard to case, blanks, underscores, hyphens and a leading `is`.
-/

namespace Remap.Unicode

def Category.names : List (String × List Category) := [
  ("c", others), ("other", others), ("cc", [control]), ("control", [control]),
  ("cntrl", [control]), ("cf", [format]), ("format", [format]), ("co", [privateUse]),
  ("privateuse", [privateUse]), ("l", letters), ("letter", letters), ("lc", casedLetters),
  ("casedletter", casedLetters), ("ll", [lowercaseLetter]), ("lowercaseletter", [lowercaseLetter]),
  ("lm", [modifierLetter]), ("modifierletter", [modifierLetter]), ("lo", [otherLetter]),
  ("otherletter", [otherLetter]), ("lt", [titlecaseLetter]),
  ("titlecaseletter", [titlecaseLetter]), ("lu", [uppercaseLetter]),
  ("uppercaseletter", [uppercaseLetter]), ("m", marks), ("mark", marks), ("combiningmark", marks),
  ("mc", [spacingMark]), ("spacingmark", [spacingMark]), ("me", [enclosingMark]),
  ("enclosingmark", [enclosingMark]), ("mn", [nonspacingMark]),
  ("nonspacingmark", [nonspacingMark]),
  ("n", numbers), ("number", numbers), ("nd", [decimalNumber]), ("decimalnumber", [decimalNumber]),
  ("digit", [decimalNumber]), ("nl", [letterNumber]), ("letternumber", [letterNumber]),
  ("no", [otherNumber]), ("othernumber", [otherNumber]), ("p", punctuation),
  ("punctuation", punctuation), ("punct", punctuation), ("pc", [connectorPunctuation]),
  ("connectorpunctuation", [connectorPunctuation]), ("pd", [dashPunctuation]),
  ("dashpunctuation", [dashPunctuation]), ("pe", [closePunctuation]),
  ("closepunctuation", [closePunctuation]), ("pf", [finalPunctuation]),
  ("finalpunctuation", [finalPunctuation]), ("pi", [initialPunctuation]),
  ("initialpunctuation", [initialPunctuation]), ("po", [otherPunctuation]),
  ("otherpunctuation", [otherPunctuation]), ("ps", [openPunctuation]),
  ("openpunctuation", [openPunctuation]), ("s", symbols), ("symbol", symbols),
  ("sc", [currencySymbol]), ("currencysymbol", [currencySymbol]), ("sk", [modifierSymbol]),
  ("modifiersymbol", [modifierSymbol]), ("sm", [mathSymbol]), ("mathsymbol", [mathSymbol]),
  ("so", [otherSymbol]), ("othersymbol", [otherSymbol]), ("z", separators),
  ("separator", separators), ("zl", [lineSeparator]), ("lineseparator", [lineSeparator]),
  ("zp", [paragraphSeparator]), ("paragraphseparator", [paragraphSeparator]),
  ("zs", [spaceSeparator]), ("spaceseparator", [spaceSeparator])]

/-- The set of a general category, of a group of them, or of all or all assigned characters. -/
def Category.find? (name : String) : Option CharSet :=
  match name with
  | "any" => some CharSet.full
  | "assigned" => some assigned
  | "ascii" => some (CharSet.range 0 0x7F)
  | "cn" | "unassigned" => some unassigned
  | _ => (names.find? fun p => p.1 == name).map fun p => union p.2

namespace Property

/-- Why a name has no set. -/
inductive Unknown
  /-- There is no such property. -/
  | property
  /-- The property has no such value. -/
  | value
  deriving DecidableEq, Repr

/-- Names of properties whose values are listed in this library. -/
inductive Valued
  | category
  | script
  | scriptExtensions
  | age
  | cluster
  | word
  | sentence
  deriving DecidableEq, Repr

/-- The property of a name, if it is one whose values are listed. -/
def Valued.find? : String → Option Valued
  | "gc" | "generalcategory" => some category
  | "sc" | "script" => some script
  | "scx" | "scriptextensions" => some scriptExtensions
  | "age" => some age
  | "gcb" | "graphemeclusterbreak" => some cluster
  | "wb" | "wordbreak" => some word
  | "sb" | "sentencebreak" => some sentence
  | _ => none

/-- Names of the other properties of the standard: they are known, but have no sets here. -/
def others : List String := [
  "bc", "bidiclass", "bidim", "bidimirrored", "bidimirroringglyph", "bidipairedbracket",
  "bidipairedbrackettype", "blk", "block", "bmg", "bpb", "bpt", "canonicalcombiningclass",
  "casefolding", "ccc", "ce", "cf", "changeswhennfkccasefolded", "cjkaccountingnumeric",
  "cjkcompatibilityvariant", "cjkiicore", "cjkirggsource", "cjkirghsource", "cjkirgjsource",
  "cjkirgkpsource", "cjkirgksource", "cjkirgmsource", "cjkirgssource", "cjkirgtsource",
  "cjkirguksource", "cjkirgusource", "cjkirgvsource", "cjkothernumeric", "cjkprimarynumeric",
  "cjkrsunicode", "compex", "compositionexclusion", "cwkcf", "decompositionmapping",
  "decompositiontype", "dm", "dt", "ea", "eastasianwidth", "equideo",
  "equivalentunifiedideograph", "expandsonnfc", "expandsonnfd", "expandsonnfkc", "expandsonnfkd",
  "fcnfkc", "fcnfkcclosure", "fullcompositionexclusion", "hangulsyllabletype", "hst", "incb",
  "indicconjunctbreak", "indicpositionalcategory", "indicsyllabiccategory", "inpc", "insc", "isc",
  "jamoshortname", "jg", "joininggroup", "joiningtype", "jsn", "jt", "kaccountingnumeric",
  "kcompatibilityvariant", "kehcat", "kehdesc", "kehhg", "kehifao", "kehjsesh", "kehnomirror",
  "kehnorotate", "kiicore", "kirggsource", "kirghsource", "kirgjsource", "kirgkpsource",
  "kirgksource", "kirgmsource", "kirgssource", "kirgtsource", "kirguksource", "kirgusource",
  "kirgvsource", "kothernumeric", "kprimarynumeric", "krsunicode", "lb", "lc", "linebreak",
  "lowercasemapping", "na", "na1", "name", "namealias", "nfcqc", "nfcquickcheck", "nfdqc",
  "nfdquickcheck", "nfkccasefold", "nfkccf", "nfkcqc", "nfkcquickcheck", "nfkcscf",
  "nfkcsimplecasefold", "nfkdqc", "nfkdquickcheck", "nt", "numerictype", "numericvalue", "nv",
  "scf", "sfc", "simplecasefolding", "simplelowercasemapping", "simpletitlecasemapping",
  "simpleuppercasemapping", "slc", "stc", "suc", "tc", "titlecasemapping", "uc",
  "unicode1name", "unicoderadicalstroke", "uppercasemapping", "urs", "verticalorientation", "vo",
  "xonfc", "xonfd", "xonfkc", "xonfkd"]

/-- A name without what is not compared: case, blanks, underscores, hyphens, characters beyond
ASCII, and a leading `is`. The name `isc` keeps its beginning. -/
def normaliseName (name : List Char) : String :=
  let kept (cs : List Char) :=
    (cs.filter fun c => c != ' ' && c != '_' && c != '-' && c.toNat ≤ 0x7F).map Char.toLower
  match name with
  | i :: s :: rest =>
    if (i = 'i' ∨ i = 'I') ∧ (s = 's' ∨ s = 'S') then
      if kept rest = ['c'] then "isc" else String.ofList (kept rest)
    else String.ofList (kept name)
  | _ => String.ofList (kept name)

/-- The set of a name on its own: a binary property, a general category or a script. Three short
names that are also names of other properties stand for general categories. -/
def named (name : List Char) : Except Unknown CharSet :=
  let n := normaliseName name
  let shadowed := n == "cf" || n == "sc" || n == "lc"
  match if shadowed then none else Binary.find? n with
  | some b => .ok b.set
  | none =>
    if !shadowed && ((Valued.find? n).isSome || others.contains n) then .error .property
    else if n == "cs" || n == "surrogate" then .error .value
    else
      match Category.find? n with
      | some s => .ok s
      | none =>
        match Script.find? n with
        | some s => .ok s.set
        | none =>
          if ["zzzz", "unknown", "hrkt", "katakanaorhiragana"].contains n then .error .value
          else .error .property

/-- The set of the characters for which a property has a value. -/
def valued (name value : List Char) : Except Unknown CharSet :=
  let n := normaliseName name
  let v := normaliseName value
  let found : Option CharSet → Except Unknown CharSet
    | some s => .ok s
    | none => .error .value
  match Valued.find? n with
  | some .category => found (Category.find? v)
  | some .script => found ((Script.find? v).map Script.set)
  | some .scriptExtensions => found ((Script.find? v).map Script.extensions)
  | some .age => found (Age.upTo? v)
  | some .cluster => found (Boundary.find? Boundary.cluster v)
  | some .word => found (Boundary.find? Boundary.word v)
  | some .sentence => found (Boundary.find? Boundary.sentence v)
  | none =>
    if (Binary.find? n).isSome || others.contains n then .error .value else .error .property

end Property

/-! ### Sets with a use of their own -/

/-- The characters that words are made of. -/
def wordSet : CharSet :=
  CharSet.unions [Binary.set .alphabetic, Binary.set .joinControl,
    Category.union (.decimalNumber :: .connectorPunctuation :: Category.marks)]

def digitSet : CharSet := Category.set .decimalNumber

def spaceSet : CharSet := Binary.set .whiteSpace

/-- Letters, in the wide sense. -/
def letterSet : CharSet := Binary.set .alphabetic

/-- Letters and numbers. -/
def letterOrNumberSet : CharSet := letterSet.union (Category.union Category.numbers)

end Remap.Unicode
