import Remap.Regex.Basic
import Remap.Proofs.Regex.Word
/-!
# Escaped words

With a backslash before each character that has a meaning of its own, a word is read as the row of
its characters and nothing else.

Main statements: `parse_escape` and `compile_escape`.
-/

namespace Remap.Regex

/-- A character, with a backslash before it if it has a meaning of its own. -/
def escapeChar (x : Char) : List Char := if isMeta x then ['\\', x] else [x]

/-- A word with a backslash before each character that has a meaning of its own. -/
def escape (w : List Char) : List Char := w.flatMap escapeChar

/-! ## Reading one character -/

/-- After a backslash none of the characters with a meaning of their own begins anything else. -/
theorem readings_of_isMeta {x : Char} (h : isMeta x = true) :
    x.isDigit = false ∧ ¬ (x = 'x' ∨ x = 'u' ∨ x = 'U') ∧ ¬ (x = 'p' ∨ x = 'P') ∧ x ≠ 'b' ∧
      Shorthand.ofLetter? x.toLower = none ∧ controlOf? x = none ∧ placeOf? x = none := by
  -- checked for each of them, since there are few
  have hall : "\\.+*?()|[]\x7b\x7d^$#&-~".toList.all (fun x => !x.isDigit &&
      !"xuUpPb".toList.contains x && (Shorthand.ofLetter? x.toLower).isNone &&
      (controlOf? x).isNone && (placeOf? x).isNone) = true := by rfl
  have hx := List.all_eq_true.mp hall x (List.contains_iff_mem.mp h)
  simp only [Bool.and_eq_true, Bool.not_eq_true', Option.isNone_iff_eq_none] at hx
  obtain ⟨⟨⟨⟨hdigit, hletter⟩, hshort⟩, hcontrol⟩, hplace⟩ := hx
  have hne : ∀ y ∈ "xuUpPb".toList, x ≠ y := by
    rintro y hy rfl
    rw [List.contains_iff_mem.mpr hy] at hletter
    cases hletter
  refine ⟨hdigit, ?_, ?_, hne 'b' (by decide), hshort, hcontrol, hplace⟩
  · rintro (h | h | h)
    · exact hne 'x' (by decide) h
    · exact hne 'u' (by decide) h
    · exact hne 'U' (by decide) h
  · rintro (h | h)
    · exact hne 'p' (by decide) h
    · exact hne 'P' (by decide) h

theorem advance_of_cons {c : Cursor} {x : Char} {xs : List Char} (h : c.rest = x :: xs) :
    c.advance = { c with rest := xs, pos := c.pos.after x } := by
  unfold Cursor.advance
  rw [h]

/-- A backslash and a character with a meaning of its own are read as that character. -/
theorem readEscape_of_isMeta {c : Cursor} {x : Char} {xs : List Char} (hx : isMeta x = true)
    (h : c.rest = '\\' :: x :: xs) :
    ∃ (l : Literal) (d : Cursor), readEscape c = .ok (.literal l, d) ∧ l.char = x ∧
      d.rest = xs ∧ d.verbose = c.verbose := by
  obtain ⟨hdigit, hhex, hprop, hb, hshort, hcontrol, hplace⟩ := readings_of_isMeta hx
  have hadv := advance_of_cons h
  have hesc : isEscapable x = true := by rw [isEscapable, hx, Bool.true_or]
  refine ⟨{ span := ⟨c.pos, c.advance.advance.pos⟩, char := x }, c.advance.advance, ?_, rfl, ?_⟩
  · have hpeek : c.advance.peek = some x := by rw [hadv]; rfl
    simp [readEscape, hpeek, hdigit, hhex, hprop, hb, hshort, hcontrol, hplace, hesc]
  · rw [hadv]
    exact ⟨rfl, rfl⟩

/-- A character without a meaning of its own is read as itself. -/
theorem step_of_not_isMeta {r : Reader} {x : Char} (hx : isMeta x = false) :
    r.step x = .ok { r with
      cursor := r.cursor.advance
      sequence := r.sequence.push (.literal { span := r.cursor.spanChar, char := x }) } := by
  have hne : ∀ y ∈ "\\.+*?()|[]\x7b\x7d^$#&-~".toList, x ≠ y := by
    rintro y hy rfl
    have := List.contains_iff_mem.mpr hy
    rw [isMeta, this] at hx
    cases hx
  unfold Reader.step
  split
  all_goals first | exact absurd rfl (hne _ (by decide)) | skip
  unfold readItem
  split
  all_goals first | exact absurd rfl (hne _ (by decide)) | skip
  rfl

/-- Reading an escaped character adds that character to the sequence. -/
theorem step_escapeChar {r : Reader} {x : Char} {rest : List Char}
    (h : r.cursor.rest = escapeChar x ++ rest) :
    ∃ (y : Char) (l : Literal) (d : Cursor), r.cursor.peek = some y ∧
      r.step y = .ok { r with cursor := d, sequence := r.sequence.push (.literal l) } ∧
      l.char = x ∧ d.rest = rest ∧ d.verbose = r.cursor.verbose := by
  unfold escapeChar at h
  split at h
  next hx =>
    obtain ⟨l, d, he, hl, hrest, hv⟩ := readEscape_of_isMeta hx h
    refine ⟨'\\', l, d, by rw [Cursor.peek, h]; rfl, ?_, hl, hrest, hv⟩
    show (readEscape r.cursor).bind _ = _
    rw [he]
    rfl
  next hx =>
    have hadv := advance_of_cons h
    refine ⟨x, { span := r.cursor.spanChar, char := x }, r.cursor.advance,
      by rw [Cursor.peek, h]; rfl, step_of_not_isMeta (Bool.eq_false_iff.mpr hx), rfl, ?_⟩
    rw [hadv]
    exact ⟨rfl, rfl⟩

/-! ## Reading a word -/

/-- Every character takes a round of reading at most. -/
theorem length_le_escape (w : List Char) : w.length ≤ (escape w).length := by
  induction w with
  | nil => exact Nat.le_refl _
  | cons x w ih =>
    have hx : 1 ≤ (escapeChar x).length := by
      unfold escapeChar
      split
      · exact Nat.le_succ 1
      · exact Nat.le_refl 1
    rw [escape, List.flatMap_cons, List.length_append, List.length_cons]
    have : w.length ≤ (w.flatMap escapeChar).length := ih
    omega

/-- Outside of groups an escaped word is read as its characters, which follow the parts before. -/
theorem run_escape {r : Reader} {w : List Char} {fuel : Nat} (h : r.cursor.rest = escape w)
    (hv : r.cursor.verbose = false) (hs : r.stack = []) (hf : w.length ≤ fuel) :
    ∃ (ls : List Literal) (stop : Position), ls.map Literal.char = w ∧
      Reader.run fuel r = .ok (Sequence.toAst
        { r.sequence with parts := (ls.map Ast.literal).reverse ++ r.sequence.parts } stop) := by
  induction fuel generalizing r w with
  | zero =>
    have hnil : w = [] := List.length_eq_zero_iff.mp (Nat.le_zero.mp hf)
    refine ⟨[], r.cursor.pos, hnil.symm, ?_⟩
    rw [Reader.run, Reader.finish, Reader.close, hs]
    rfl
  | succ fuel ih =>
    have hskip : r.cursor.skip = r.cursor := by
      rw [Cursor.skip, hv]
      rfl
    rw [Reader.run, hskip]
    cases w with
    | nil =>
      have hpeek : r.cursor.peek = none := by
        rw [Cursor.peek, h]
        rfl
      refine ⟨[], r.cursor.pos, rfl, ?_⟩
      dsimp only
      rw [hpeek]
      dsimp only
      rw [Reader.finish, Reader.close, hs]
      rfl
    | cons x w =>
      rw [escape, List.flatMap_cons] at h
      -- each escaped character is one step and gives one literal
      obtain ⟨y, l, d, hpeek, hstep, hl, hrest, hverbose⟩ := step_escapeChar h
      obtain ⟨ls, stop, hls, hrun⟩ :=
        ih (r := { r with cursor := d, sequence := r.sequence.push (.literal l) }) hrest
          (hverbose.trans hv) hs (Nat.le_of_succ_le_succ hf)
      refine ⟨l :: ls, stop, by rw [List.map_cons, hl, hls], ?_⟩
      dsimp only
      rw [hpeek]
      dsimp only
      rw [hstep]
      dsimp only
      rw [hrun]
      simp [Sequence.push]

/-- The characters of a word as one expression. -/
inductive IsWord (w : List Char) : Ast → Prop
  | empty {s : Span} : w = [] → IsWord w (.empty s)
  | literal {l : Literal} : w = [l.char] → IsWord w (.literal l)
  | concat {s : Span} {ls : List Literal} : ls.map Literal.char = w →
      IsWord w (.concat s (ls.map .literal))

theorem anyTooDeep_literals (depth : Nat) (ls : List Literal) :
    Ast.anyTooDeep depth (ls.map .literal) = none := by
  induction ls with
  | nil => rfl
  | cons l ls ih =>
    rw [List.map_cons, Ast.anyTooDeep, ih]
    rfl

theorem IsWord.tooDeep {w : List Char} {a : Ast} (h : IsWord w a) : a.tooDeep 0 = none := by
  cases h with
  | empty => rfl
  | literal => rfl
  | concat =>
    rw [Ast.tooDeep, anyTooDeep_literals]
    rfl

theorem toAst_of_two_le {s : Sequence} {stop : Position} (h : 2 ≤ s.parts.length) :
    s.toAst stop = .concat ⟨s.start, stop⟩ s.parts.reverse := by
  unfold Sequence.toAst
  split
  next he => rw [he] at h; cases h
  next he => rw [he] at h; exact absurd h (by simp)
  next => rfl

/-- An escaped word is read as the row of its characters. -/
theorem parse_escape (w : List Char) : ∃ a, Ast.parse (escape w) = .ok a ∧ IsWord w a := by
  have hfuel : w.length ≤ (escape w).length + 1 := Nat.le_succ_of_le (length_le_escape w)
  obtain ⟨ls, stop, hls, hrun⟩ :=
    run_escape (r := { cursor := { rest := escape w }, sequence := { start := {} } })
      rfl rfl rfl hfuel
  rw [List.append_nil] at hrun
  have hword : IsWord w
      (Sequence.toAst { start := {}, parts := (ls.map Ast.literal).reverse } stop) := by
    subst hls
    rcases ls with _ | ⟨l, _ | ⟨k, ls⟩⟩
    · exact .empty rfl
    · exact .literal rfl
    · rw [toAst_of_two_le (by simp), List.reverse_reverse]
      exact .concat rfl
  refine ⟨_, ?_, hword⟩
  unfold Ast.parse
  simp only [hrun, bind, Except.bind, hword.tooDeep]
  rfl

/-! ## The meaning of a word -/

theorem literalNode_default (c : Char) : literalNode {} c = .char c := by
  show (if CharSet.single c = CharSet.single c then Node.char c else _) = _
  rw [if_pos rfl]

theorem meaningFrom_literal (l : Literal) :
    (Ast.literal l).meaningFrom {} = .ok (.char l.char, {}) := by
  rw [Ast.meaningFrom, literalChar]
  show Except.ok (literalNode {} l.char, _) = _
  rw [literalNode_default]

theorem meaningsFrom_literals (ls : List Literal) :
    Ast.meaningsFrom {} (ls.map .literal) = .ok (ls.map fun l => .char l.char, {}) := by
  induction ls with
  | nil => rfl
  | cons l ls ih =>
    rw [List.map_cons, Ast.meaningsFrom, meaningFrom_literal]
    show (Ast.meaningsFrom {} (ls.map .literal)).bind _ = _
    rw [ih]
    rfl

/-- The meaning of the row of a word's characters is the expression of the word. -/
theorem IsWord.meaning {w : List Char} {a : Ast} (h : IsWord w a) :
    Ast.meaning {} a = .ok (.word w) := by
  unfold Ast.meaning
  cases h with
  | empty h =>
    subst h
    rfl
  | literal h =>
    subst h
    rw [meaningFrom_literal]
    rfl
  | concat h =>
    subst h
    rw [Ast.meaningFrom, meaningsFrom_literals, Node.word, List.map_map]
    rfl

/-- An escaped word compiles to the automaton of the word, unless that is too large. -/
theorem compile_escape (w : List Char) :
    compile {} (escape w) =
      if (Node.word w).tooLarge ((Node.word w).size + 1) then .error .tooLarge
      else .ok (ofNode (.word w)) := by
  obtain ⟨a, hparse, hword⟩ := parse_escape w
  unfold compile
  rw [hparse]
  show (match Ast.meaning {} a with
    | .error e => _
    | .ok n => _) = _
  rw [hword.meaning]

end Remap.Regex
