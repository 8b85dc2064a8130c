import Mathlib
import Remap.Pattern.Basic
import Remap.Proofs.Pattern.Flags
import Remap.Proofs.Regex.Iteration
/-!
# What a replacement changes

Which matches of a pattern are replaced depends on two flags: all or the first of them, and with the
sticky flag only of those that join on to one another from the start. The text between the matches
that are replaced stays as it is: a text is its gaps with the matches in them, and the new text is
the same gaps with the expanded templates in them.

Main statement: `replace_uses`.
-/

namespace Remap

namespace Regex

/-! ## The matches that are replaced -/

/-- Matches of which each starts where the one before it stopped, and the first one at `last`. -/
def Joins : Nat → List Match → Prop
  | _, [] => True
  | last, m :: ms => m.start = last ∧ Joins m.stop ms

/-- The longest beginning of `found` whose matches join on to one another from the start of the
text. -/
structure LongestRun (found run : List Match) : Prop where
  begins : run <+: found
  joins : Joins 0 run
  longest : ∀ other, other <+: found → Joins 0 other → other <+: run

/-- The matches that are replaced, by whether all are wanted and whether they have to join on. -/
inductive Uses (found : List Match) : (everywhere sticky : Bool) → List Match → Prop
  | all : Uses found true false found
  | first : Uses found false false (found.take 1)
  | run {run : List Match} : LongestRun found run → Uses found true true run
  | firstOfRun {run : List Match} : LongestRun found run → Uses found false true (run.take 1)

theorem joined_begins (last : Nat) (found : List Match) : joined last found <+: found := by
  induction found generalizing last with
  | nil => exact List.prefix_refl _
  | cons m ms ih =>
    rw [joined]
    split
    · exact List.cons_prefix_cons.mpr ⟨rfl, ih m.stop⟩
    · exact List.nil_prefix

theorem joins_joined (last : Nat) (found : List Match) : Joins last (joined last found) := by
  induction found generalizing last with
  | nil => trivial
  | cons m ms ih =>
    rw [joined]
    split
    next h => exact ⟨h, ih m.stop⟩
    next => trivial

theorem joined_longest {last : Nat} {found other : List Match} (h : other <+: found)
    (hj : Joins last other) : other <+: joined last found := by
  induction found generalizing last other with
  | nil => rw [List.prefix_nil.mp h]; exact List.nil_prefix
  | cons m ms ih =>
    cases other with
    | nil => exact List.nil_prefix
    | cons k ks =>
      obtain ⟨rfl, hks⟩ := List.cons_prefix_cons.mp h
      rw [joined, if_pos hj.1]
      exact List.cons_prefix_cons.mpr ⟨rfl, ih hks hj.2⟩

theorem longestRun_joined (found : List Match) : LongestRun found (joined 0 found) :=
  ⟨joined_begins 0 found, joins_joined 0 found, fun _ => joined_longest⟩

/-- The matches that are replaced are those that the flags ask for. -/
theorem uses_usedMatches (flags : Flags) (found : List Match) :
    Uses found flags.everywhere flags.sticky (usedMatches flags found) := by
  unfold usedMatches
  cases flags.everywhere <;> cases flags.sticky
  · exact .first
  · exact .firstOfRun (longestRun_joined found)
  · exact .all
  · exact .run (longestRun_joined found)

theorem usedMatches_begins (flags : Flags) (found : List Match) :
    usedMatches flags found <+: found := by
  have hrun := joined_begins 0 found
  unfold usedMatches
  cases flags.everywhere <;> cases flags.sticky
  · exact List.take_prefix 1 found
  · exact (List.take_prefix 1 _).trans hrun
  · exact List.prefix_refl _
  · exact hrun

/-- Matches in order are in order from the left as far as one looks. -/
theorem InOrder.of_begins {text : Array Char} {pos : Nat} {ms found : List Match}
    (h : ms <+: found) (ho : InOrder text pos found) : InOrder text pos ms := by
  induction ms generalizing pos found with
  | nil => trivial
  | cons m ms ih =>
    obtain ⟨rest, rfl⟩ := h
    exact ⟨ho.1, ih (List.prefix_append ms rest) ho.2⟩

end Regex

/-! ## Gaps -/

open Regex (Match InOrder)

/-- The parts of a text between matches, from `pos` on. -/
def gaps (text : List Char) (pos : Nat) : List Match → List (List Char)
  | [] => [text.drop pos]
  | m :: ms => slice text pos m.start :: gaps text m.stop ms

/-- Texts with others in their gaps. -/
def fill : (gaps news : List (List Char)) → List Char
  | g :: gs, x :: xs => g ++ x ++ fill gs xs
  | gs, _ => gs.flatten

theorem slice_append_drop {text : List Char} {a b : Nat} (h : a ≤ b) :
    slice text a b ++ text.drop b = text.drop a := by
  have hb : text.drop b = (text.drop a).drop (b - a) := by
    rw [List.drop_drop]
    congr 1
    omega
  rw [slice, hb]
  exact List.take_append_drop (b - a) (text.drop a)

/-- A text is its gaps with the matches in them. -/
theorem fill_gaps {text : List Char} {pos : Nat} {ms : List Match}
    (h : InOrder text.toArray pos ms) :
    fill (gaps text pos ms) (ms.map fun m => slice text m.start m.stop) = text.drop pos := by
  induction ms generalizing pos with
  | nil => simp [gaps, fill]
  | cons m ms ih =>
    obtain ⟨hm, hms⟩ := h
    rw [gaps, List.map_cons, fill, ih hms, List.append_assoc, slice_append_drop hm.le]
    exact slice_append_drop hm.from_le

/-- Splicing puts the new texts in the gaps. -/
theorem splice_eq_fill {text : List Char} {pos : Nat} {ms : List Match} (f : Match → List Char)
    (h : InOrder text.toArray pos ms) :
    splice pos (text.drop pos) (ms.map fun m => (m.start, m.stop, f m)) =
      fill (gaps text pos ms) (ms.map f) := by
  induction ms generalizing pos with
  | nil => simp [splice, gaps, fill]
  | cons m ms ih =>
    obtain ⟨hm, hms⟩ := h
    have h1 := hm.from_le
    have h2 := hm.le
    have hdrop : (text.drop pos).drop (m.stop - pos) = text.drop m.stop := by
      rw [List.drop_drop]
      congr 1
      omega
    rw [List.map_cons, splice, hdrop, ih hms]
    rfl

/-! ## Patterns -/

namespace Pattern

/-- Replacing changes the matches that the flags ask for, each to its own expansion of the
template, and nothing between them. The matches are all that are reported one after the other, and
they lie in the text in order and without overlap. -/
theorem replace_uses {source letters : List Char} {p : Pattern}
    (h : compile source letters = .ok p) (text template : List Char) :
    Regex.compile
        { ignoreCase := letters.contains 'i'
          multiLine := letters.contains 'm'
          dotAll := letters.contains 's' } source = .ok p.regex ∧
      Regex.Reports p.regex.automaton text.toArray 0 none
        (p.regex.automaton.allMatches text.toArray) ∧
      InOrder text.toArray 0 (p.regex.automaton.allMatches text.toArray) ∧
      Regex.Uses (p.regex.automaton.allMatches text.toArray) (letters.contains 'g')
        (letters.contains 'y') (p.found text) ∧
      fill (gaps text 0 (p.found text)) ((p.found text).map fun m => slice text m.start m.stop) =
        text ∧
      p.replace text template = fill (gaps text 0 (p.found text))
        ((p.found text).map fun m => Template.expand p.shape (p.matched text m) template) ∧
      (p.found text = [] → p.replace text template = text) := by
  obtain ⟨-, hflags, hregex⟩ := of_compile h
  have hi : p.flags.ignoreCase = letters.contains 'i' := Flags.has_of_ofText? hflags .ignoreCase
  have hm : p.flags.multiLine = letters.contains 'm' := Flags.has_of_ofText? hflags .multiLine
  have hs : p.flags.dotAll = letters.contains 's' := Flags.has_of_ofText? hflags .dotAll
  have hg : p.flags.everywhere = letters.contains 'g' := Flags.has_of_ofText? hflags .everywhere
  have hy : p.flags.sticky = letters.contains 'y' := Flags.has_of_ofText? hflags .sticky
  have hfound := Regex.Automaton.reports_allMatches p.regex.automaton text.toArray
  have huses := Regex.uses_usedMatches p.flags (p.regex.automaton.allMatches text.toArray)
  -- the used matches are the first ones of all, and so are in order as well
  have horder : InOrder text.toArray 0 (p.found text) :=
    hfound.inOrder.of_begins (Regex.usedMatches_begins _ _)
  have hreplace : p.replace text template = fill (gaps text 0 (p.found text))
      ((p.found text).map fun m => Template.expand p.shape (p.matched text m) template) :=
    splice_eq_fill (fun m => Template.expand p.shape (p.matched text m) template) horder
  rw [hg, hy] at huses
  rw [Flags.mode, hi, hm, hs] at hregex
  refine ⟨hregex, hfound, hfound.inOrder, huses, fill_gaps horder, hreplace, ?_⟩
  intro hnil
  rw [hreplace, hnil]
  simp [gaps, fill]

/-- The pattern `/a/gy`. -/
def runOfA : Pattern where
  source := ['a']
  flags := { everywhere := true, sticky := true }
  regex := { automaton := { program := #[.accept, .char 'a' 0], entry := 1 }
             groupCount := 0
             names := [] }

theorem replace_uses_runOfA :
    compile ['a'] ['g', 'y'] = .ok runOfA ∧
      runOfA.replace "aaba".toList "<$&>".toList = "<a><a>ba".toList := by
  have h : compile ['a'] ['g', 'y'] = .ok runOfA := by rfl
  obtain ⟨-, -, -, -, -, hreplace, -⟩ := replace_uses h "aaba".toList "<$&>".toList
  refine ⟨h, ?_⟩
  rw [hreplace]
  cbv

end Pattern
end Remap
