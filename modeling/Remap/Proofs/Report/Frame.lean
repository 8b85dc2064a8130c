import Remap.Report.Frame
import Remap.Proofs.Text.Replacing
import Remap.Proofs.Text.Split
/-!
# Lines in a frame

A sample is an opening line, the first lines of a text behind bars, and a closing line. If all the
lines of the text are shown then the text comes back when the bars are removed.

Main statements: `sample_eq` and `unframe_framed_splitAt`.
-/

namespace Remap.Report

variable {t : Theme} {text : List Char} {lines : List (List Char)}

/-- A text without escape sequences stands unchanged in a style. -/
theorem Style.wrap_of_not_mem {text : List Char} (h : '\x1b' ∉ text) (style : Style) :
    style.wrap text = escape style.code ++ text ++ reset := by
  have habsent : ¬ reset <:+: text := fun hin => h (hin.subset List.mem_cons_self)
  rw [wrap, Text.replaceAll_of_absent habsent]

/-- The line above a sample. -/
def opening (t : Theme) : List Char :=
  [t.symbols.branch, t.symbols.dash, ' '] ++ t.paint .dim "Sample output:".toList ++ ['\n']

/-- The line below a sample, without its end. -/
def closing (t : Theme) : List Char :=
  [t.symbols.barEnd, t.symbols.dash, t.symbols.dash] ++ t.paint .green [t.symbols.success]

/-- Lines behind bars. -/
def framed (t : Theme) (lines : List (List Char)) : List Char :=
  lines.flatMap fun l => t.symbols.bar :: l ++ ['\n']

/-- The text whose lines stand behind bars. -/
def unframe (body : List Char) : List Char :=
  Text.join ['\n'] ((Text.splitAt (· == '\n') body).dropLast.map List.tail)

theorem sample_eq (t : Theme) (text : List Char) (n : Nat) :
    sample t text n =
      opening t ++ framed t ((Text.splitAt (· == '\n') text).take n) ++ closing t := by
  simp only [sample, opening, framed, closing, List.append_assoc]

theorem bar_ofTerminal (name : Option (List Char)) (color : Bool) :
    (Theme.ofTerminal name color).symbols.bar ≠ '\n' := by
  unfold Theme.ofTerminal
  split
  · show Symbols.ascii.bar ≠ '\n'
    decide
  · show Symbols.unicode.bar ≠ '\n'
    decide

theorem splitAt_framed (hbar : t.symbols.bar ≠ '\n')
    (hl : ∀ l ∈ lines, ∀ c ∈ l, (c == '\n') = false) :
    Text.splitAt (· == '\n') (framed t lines) = lines.map (t.symbols.bar :: ·) ++ [[]] := by
  induction lines with
  | nil => rfl
  | cons l lines ih =>
    have hline : ∀ c ∈ t.symbols.bar :: l, (c == '\n') = false := by
      intro c hc
      rcases List.mem_cons.mp hc with rfl | hc
      · simpa using hbar
      · exact hl l List.mem_cons_self c hc
    -- the first line ends at the newline behind it, since it has none itself
    have hcut : framed t (l :: lines) = (t.symbols.bar :: l) ++ '\n' :: framed t lines := by
      simp [framed]
    have hsplit := Text.splitAt_append_cons (p := (· == '\n')) (beq_self_eq_true '\n')
      (t.symbols.bar :: l) (framed t lines)
    rw [hcut, hsplit, Text.splitAt_of_forall hline,
      ih fun l' hl' => hl l' (List.mem_cons_of_mem l hl')]
    rfl

/-- Removing the bars in front of lines undoes putting them there. -/
theorem unframe_framed (hbar : t.symbols.bar ≠ '\n')
    (hl : ∀ l ∈ lines, ∀ c ∈ l, (c == '\n') = false) :
    unframe (framed t lines) = Text.join ['\n'] lines := by
  unfold unframe
  rw [splitAt_framed hbar hl, List.dropLast_concat, List.map_map]
  congr 1
  exact List.map_id lines

/-- All the lines of a text give it back. -/
theorem unframe_framed_splitAt (hbar : t.symbols.bar ≠ '\n') (text : List Char) :
    unframe (framed t (Text.splitAt (· == '\n') text)) = text := by
  rw [unframe_framed hbar fun _ => Text.of_mem_splitAt, Text.join_splitAt]

end Remap.Report
