import Remap.Text.Search
/-!
# The first occurrence of a word

Equations for `Text.cutFirst` and `Text.pieces` by whether a text starts with the word, and what it
means that the word does not occur. A character that the word does not have cuts a text in two parts
that can be searched one after the other.

Main statements: `cutFirst_eq_none_iff`, `not_infix_of_cutFirst` and `cutFirst_append_cons`.
-/

namespace Remap.Text

variable {w cs : List Char}

theorem stripStart_append (w cs : List Char) : stripStart w (w ++ cs) = some cs :=
  stripStart_eq_some_iff.mpr rfl

theorem stripStart_of_not_isPrefix (h : ¬ w <+: cs) : stripStart w cs = none := by
  cases hs : stripStart w cs with
  | none => rfl
  | some r => exact absurd ⟨r, (stripStart_eq_some_iff.mp hs).symm⟩ h

theorem cutFirst_nil (h : w ≠ []) : cutFirst w [] = none := by rw [cutFirst, if_neg h]

/-- A text that starts with the word is cut at once. -/
theorem cutFirst_of_isPrefix (h : w <+: cs) : cutFirst w cs = some ([], cs.drop w.length) := by
  obtain ⟨rest, rfl⟩ := h
  rw [List.drop_left]
  cases hc : w ++ rest with
  | nil =>
    obtain ⟨rfl, rfl⟩ := List.append_eq_nil_iff.mp hc
    rfl
  | cons c cs =>
    rw [cutFirst, ← hc, stripStart_append]

/-- A text that does not start with the word is searched one character further. -/
theorem cutFirst_cons_of_not_isPrefix {c : Char} (h : ¬ w <+: c :: cs) :
    cutFirst w (c :: cs) = (cutFirst w cs).map fun x => (c :: x.1, x.2) := by
  rw [cutFirst, stripStart_of_not_isPrefix h]

/-! ## Texts without the word -/

/-- Nothing is cut exactly if the word does not occur. -/
theorem cutFirst_eq_none_iff (hw : w ≠ []) : cutFirst w cs = none ↔ ¬ w <:+: cs := by
  induction cs with
  | nil => simp [cutFirst_nil hw, hw]
  | cons c cs ih =>
    rw [List.infix_cons_iff]
    by_cases hp : w <+: c :: cs
    · simp [cutFirst_of_isPrefix hp, hp]
    · rw [cutFirst_cons_of_not_isPrefix hp, Option.map_eq_none_iff, ih]
      simp [hp]

/-- The word does not occur before its first occurrence. -/
theorem not_infix_of_cutFirst {b a : List Char} (hw : w ≠ []) (h : cutFirst w cs = some (b, a)) :
    ¬ w <:+: b := by
  induction cs generalizing b with
  | nil =>
    rw [cutFirst_nil hw] at h
    cases h
  | cons c cs ih =>
    by_cases hp : w <+: c :: cs
    · rw [cutFirst_of_isPrefix hp] at h
      cases h
      simpa using hw
    · rw [cutFirst_cons_of_not_isPrefix hp] at h
      obtain ⟨⟨b', a'⟩, hcut, he⟩ := Option.map_eq_some_iff.mp h
      cases he
      have hb : c :: b' <+: c :: cs :=
        List.cons_prefix_cons.mpr ⟨rfl, w ++ a', by rw [eq_of_cutFirst hcut, List.append_assoc]⟩
      rw [List.infix_cons_iff]
      -- the word would begin here, or be found in the rest before its first place
      rintro (hpre | hin)
      · exact hp (hpre.trans hb)
      · exact ih hcut hin

theorem not_infix_before (hw : w ≠ []) : ¬ w <:+: before w cs := by
  unfold before
  split
  next h => exact not_infix_of_cutFirst hw h
  next h => exact (cutFirst_eq_none_iff hw).mp h

theorem before_isPrefix (w cs : List Char) : before w cs <+: cs := by
  unfold before
  split
  next b a h => exact ⟨w ++ a, by rw [eq_of_cutFirst h, List.append_assoc]⟩
  next => exact List.prefix_refl cs

theorem before_cons_of_not_isPrefix {c : Char} (h : ¬ w <+: c :: cs) :
    before w (c :: cs) = c :: before w cs := by
  rw [before, cutFirst_cons_of_not_isPrefix h, before]
  cases cutFirst w cs <;> rfl

theorem before_of_not_infix (hw : w ≠ []) (h : ¬ w <:+: cs) : before w cs = cs := by
  rw [before, (cutFirst_eq_none_iff hw).mpr h]

/-! ## Texts around a character that the word does not have -/

theorem prefix_of_prefix_append_cons {α : Type} {w a cs : List α} {c : α} (hc : c ∉ w)
    (h : w <+: a ++ c :: cs) : w <+: a := by
  have ha : a ++ [c] <+: a ++ c :: cs := ⟨cs, by rw [List.append_assoc]; rfl⟩
  rcases List.prefix_or_prefix_of_prefix h ha with hwa | haw
  · rcases List.prefix_concat_iff.mp hwa with rfl | hwa
    · exact absurd (List.mem_append_right a (List.mem_singleton_self c)) hc
    · exact hwa
  · exact absurd (haw.subset (List.mem_append_right a (List.mem_singleton_self c))) hc

theorem suffix_of_suffix_append_cons {α : Type} {w a cs : List α} {c : α} (hc : c ∉ w)
    (h : w <:+ a ++ c :: cs) : w <:+ cs := by
  rw [← List.reverse_prefix] at h ⊢
  rw [List.reverse_append, List.reverse_cons, List.append_assoc] at h
  exact prefix_of_prefix_append_cons (by simpa using hc) h

/-- The word occurs on one side of such a character. -/
theorem infix_append_cons {α : Type} {w a cs : List α} {c : α} (hc : c ∉ w)
    (h : w <:+: a ++ c :: cs) : w <:+: a ∨ w <:+: cs := by
  induction a with
  | nil =>
    rcases List.infix_cons_iff.mp h with hp | hi
    · exact .inl (prefix_of_prefix_append_cons (a := []) hc hp).isInfix
    · exact .inr hi
  | cons d a ih =>
    rcases List.infix_cons_iff.mp h with hp | hi
    · exact .inl (prefix_of_prefix_append_cons hc hp).isInfix
    · rcases ih hi with ha | hcs
      · exact .inl (List.infix_cons_iff.mpr (.inr ha))
      · exact .inr hcs

/-- With one more character behind it, a text has the word where it had it before, or at its end. -/
theorem concat_infix_concat_iff {α : Type} {w cs : List α} {x c : α} :
    w ++ [x] <:+: cs ++ [c] ↔ w <:+ cs ∧ x = c ∨ w ++ [x] <:+: cs := by
  have hlength : [x].length = [c].length := rfl
  rw [List.infix_concat_iff, List.suffix_append_inj_of_length_eq hlength, List.singleton_inj]

theorem concat_infix_append_pair_iff {α : Type} {w cs : List α} {x b c : α} :
    w ++ [x] <:+: cs ++ [b, c] ↔
      w <:+ cs ++ [b] ∧ x = c ∨ w <:+ cs ∧ x = b ∨ w ++ [x] <:+: cs := by
  rw [List.append_cons cs b [c], concat_infix_concat_iff, concat_infix_concat_iff]

/-- If the word does not occur before such a character, it is searched behind it. -/
theorem cutFirst_append_cons {a : List Char} {c : Char} (hw : w ≠ []) (hc : c ∉ w)
    (h : ¬ w <:+: a) :
    cutFirst w (a ++ c :: cs) = (cutFirst w cs).map fun x => (a ++ c :: x.1, x.2) := by
  induction a with
  | nil =>
    have hp : ¬ w <+: c :: cs := fun hp =>
      hw (List.prefix_nil.mp (prefix_of_prefix_append_cons (a := []) hc hp))
    exact cutFirst_cons_of_not_isPrefix hp
  | cons d a ih =>
    rw [List.infix_cons_iff, not_or] at h
    have hp : ¬ w <+: d :: (a ++ c :: cs) := fun hp =>
      h.1 (prefix_of_prefix_append_cons (a := d :: a) hc hp)
    rw [List.cons_append, cutFirst_cons_of_not_isPrefix hp, ih h.2, Option.map_map]
    rfl

/-! ## Pieces -/

theorem pieces_of_cutFirst_none (hw : w ≠ []) (h : cutFirst w cs = none) : pieces w cs = [cs] := by
  rw [pieces, dif_neg hw]
  split
  next h' => rw [h] at h'; cases h'
  next => rfl

theorem pieces_of_cutFirst {b a : List Char} (hw : w ≠ []) (h : cutFirst w cs = some (b, a)) :
    pieces w cs = b :: pieces w a := by
  rw [pieces, dif_neg hw]
  split
  next h' => rw [h] at h'; cases h'; rfl
  next h' => rw [h] at h'; cases h'

end Remap.Text
