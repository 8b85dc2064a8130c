import Remap.Text.Search
/-!
# Themes

A theme says which symbols frame the report and whether it has colours. Colours are written as
escape sequences around a text: `paint` begins with the code of the colour and ends with a reset,
and takes the colour up again after a reset inside the text.
-/

namespace Remap.Report

structure Symbols where
  bar : Char
  barEnd : Char
  dash : Char
  branch : Char
  done : Char
  failed : Char
  success : Char
  deriving DecidableEq, Repr

namespace Symbols

/-- Symbols from the box-drawing and geometric characters. -/
def unicode : Symbols := ⟨'│', '└', '─', '├', '◇', '▲', '◆'⟩

/-- Symbols for terminals that have no others. -/
def ascii : Symbols := ⟨'|', '—', '-', '+', 'o', 'x', '*'⟩

def toList (s : Symbols) : List Char :=
  [s.bar, s.barEnd, s.dash, s.branch, s.done, s.failed, s.success]

end Symbols

/-- Symbols, and whether there are colours. -/
structure Theme where
  symbols : Symbols
  color : Bool
  deriving DecidableEq, Repr

/-- The styles in use, each with its code. -/
inductive Style
  | dim
  | cyan
  | yellow
  | green
  | red
  deriving DecidableEq, Repr

def Style.code : Style → List Char
  | dim => ['2']
  | cyan => ['3', '6']
  | yellow => ['3', '3']
  | green => ['3', '2']
  | red => ['3', '1']

/-- The sequence that switches to a code. -/
def escape (code : List Char) : List Char := ['\x1b', '['] ++ code ++ ['m']

/-- The sequence that ends a style. -/
def reset : List Char := escape ['0']

/-- A text in a style. -/
def Style.wrap (s : Style) (text : List Char) : List Char :=
  escape s.code ++ Text.replaceAll reset (reset ++ escape s.code) text ++ reset

namespace Theme

/-- No colours, and the plainest symbols. -/
def plain : Theme := ⟨.ascii, false⟩

/-- The theme for a terminal of a given name: all terminals are taken to have the wider symbols,
unless it is named `linux`. -/
def ofTerminal (name : Option (List Char)) (color : Bool) : Theme :=
  ⟨if name = some ['l', 'i', 'n', 'u', 'x'] then .ascii else .unicode, color⟩

/-- A text in a style, if there are colours. -/
def paint (t : Theme) (s : Style) (text : List Char) : List Char :=
  if t.color then s.wrap text else text

end Theme
end Remap.Report
