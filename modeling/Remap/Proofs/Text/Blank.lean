import Mathlib.Data.List.DropRight
import Remap.Text.Blank
/-!
# Trimmed texts

A text is trimmed if no white space stands at its ends. Trimming gives such a text and leaves it as
it is.

Main statements: `trimmed_trim` and `Trimmed.trim_eq`.
-/

namespace Remap.Text

variable {cs : List Char}

/-- No white space stands at either end. -/
structure Trimmed (cs : List Char) : Prop where
  first : ∀ c, cs.head? = some c → isBlank c = false
  last : ∀ c, cs.getLast? = some c → isBlank c = false

theorem trimEnd_eq_rdropWhile (cs : List Char) : trimEnd cs = cs.rdropWhile isBlank := rfl

theorem trimStart_of_first (h : ∀ c, cs.head? = some c → isBlank c = false) :
    trimStart cs = cs := by
  cases cs with
  | nil => rfl
  | cons c cs => exact List.dropWhile_cons_of_neg (by simp [h c rfl])

theorem trimEnd_of_last (h : ∀ c, cs.getLast? = some c → isBlank c = false) :
    trimEnd cs = cs := by
  rw [trimEnd_eq_rdropWhile, List.rdropWhile_eq_self_iff]
  intro hne
  rw [h _ (List.getLast?_eq_some_getLast hne)]
  exact Bool.false_ne_true

/-- A trimmed text stays as it is. -/
theorem Trimmed.trim_eq (h : Trimmed cs) : trim cs = cs := by
  rw [trim, trimStart_of_first h.first, trimEnd_of_last h.last]

theorem trimmed_of_forall (h : ∀ c ∈ cs, isBlank c = false) : Trimmed cs where
  first c hc := h c (List.mem_of_mem_head? hc)
  last c hc := h c (List.mem_of_getLast? hc)

theorem trimEnd_isPrefix (cs : List Char) : trimEnd cs <+: cs := List.rdropWhile_prefix isBlank cs

theorem trim_isInfix (cs : List Char) : trim cs <:+: cs :=
  (trimEnd_isPrefix (trimStart cs)).isInfix.trans (List.dropWhile_suffix isBlank).isInfix

/-- What is left of a text begins as the text does. -/
theorem head?_of_isPrefix {as bs : List Char} (h : as <+: bs) (hne : as ≠ []) :
    as.head? = bs.head? := by
  obtain ⟨rest, rfl⟩ := h
  exact (List.head?_append_of_ne_nil as hne).symm

theorem first_trimStart {c : Char} (h : (trimStart cs).head? = some c) : isBlank c = false := by
  have := List.head?_dropWhile_not isBlank cs
  rw [show cs.dropWhile isBlank = trimStart cs from rfl, h] at this
  simpa using this

/-- Only the white space in front decides how a text begins after trimming. -/
theorem head?_trim (cs : List Char) : (trim cs).head? = (trimStart cs).head? := by
  cases hs : trimStart cs with
  | nil => rw [trim, hs]; rfl
  | cons c rest =>
    have hc : isBlank c = false := first_trimStart (by rw [hs]; rfl)
    have hne : trimEnd (c :: rest) ≠ [] := by
      rw [trimEnd_eq_rdropWhile, Ne, List.rdropWhile_eq_nil_iff]
      intro h
      rw [h c List.mem_cons_self] at hc
      cases hc
    rw [trim, hs]
    exact head?_of_isPrefix (trimEnd_isPrefix _) hne

/-- Nothing is left of a text exactly if it is all white space. -/
theorem trim_eq_nil_iff : trim cs = [] ↔ ∀ c ∈ cs, isBlank c = true := by
  rw [← List.head?_eq_none_iff, head?_trim, List.head?_eq_none_iff]
  exact List.dropWhile_eq_nil_iff

theorem trimmed_trim (cs : List Char) : Trimmed (trim cs) where
  first := by
    intro c hc
    rw [head?_trim] at hc
    exact first_trimStart hc
  last := by
    intro c hc
    have hne : trim cs ≠ [] := by
      intro h
      rw [h] at hc
      cases hc
    rw [List.getLast?_eq_some_getLast hne] at hc
    have hlast := List.rdropWhile_last_not isBlank (trimStart cs) hne
    rw [← Option.some.inj hc]
    exact Bool.eq_false_iff.mpr hlast

/-- White space behind a trimmed text is taken off. -/
theorem Trimmed.trim_concat {b : Char} (h : Trimmed cs) (hne : cs ≠ []) (hb : isBlank b = true) :
    trim (cs ++ [b]) = cs := by
  have hfirst : ∀ c, (cs ++ [b]).head? = some c → isBlank c = false := by
    rw [List.head?_append_of_ne_nil cs hne]
    exact h.first
  rw [trim, trimStart_of_first hfirst, trimEnd_eq_rdropWhile, List.rdropWhile_concat_pos _ _ _ hb,
    ← trimEnd_eq_rdropWhile, trimEnd_of_last h.last]

theorem head?_trim_cons {c : Char} (hc : isBlank c = false) (cs : List Char) :
    (trim (c :: cs)).head? = some c := by
  rw [head?_trim, trimStart, List.dropWhile_cons_of_neg (by simp [hc])]
  rfl

/-- A text that is more than white space begins, after trimming, as each longer one does. -/
theorem head?_trim_of_isPrefix {as bs : List Char} (h : as <+: bs) (hne : trim as ≠ []) :
    (trim as).head? = (trim bs).head? := by
  obtain ⟨rest, rfl⟩ := h
  have hstart : trimStart as ≠ [] := by
    intro h
    rw [trim, h] at hne
    exact hne rfl
  have happend : trimStart (as ++ rest) = trimStart as ++ rest := by
    unfold trimStart at hstart ⊢
    rw [List.dropWhile_append, if_neg (by simpa using hstart)]
  rw [head?_trim, head?_trim, happend, List.head?_append_of_ne_nil _ hstart]

theorem trim_cons_of_blank {b : Char} (hb : isBlank b = true) (cs : List Char) :
    trim (b :: cs) = trim cs := by
  rw [trim, trimStart, List.dropWhile_cons_of_pos hb]
  rfl

/-- White space behind a text is taken off, whatever the text. -/
theorem trim_concat_of_blank {b : Char} (hb : isBlank b = true) (cs : List Char) :
    trim (cs ++ [b]) = trim cs := by
  unfold trim trimStart
  rw [List.dropWhile_append]
  split
  next hnil =>
    rw [List.isEmpty_iff.mp hnil, List.dropWhile_cons_of_pos hb, List.dropWhile_nil]
  next =>
    rw [trimEnd_eq_rdropWhile, List.rdropWhile_concat_pos _ _ _ hb]
    rfl

/-- Behind a text, a character that is no white space keeps what is before it from being taken off
the end. So the text goes on with that character or with white space after trimming. -/
theorem exists_trim_append {b c : Char} (hb : isBlank b = true) (hc : isBlank c = false)
    (cs : List Char) : ∃ d more, trim (cs ++ [b, c]) = trim cs ++ d :: more ∧
      (d = c ∨ isBlank d = true) := by
  unfold trim trimStart
  rw [List.dropWhile_append]
  split
  next hnil =>
    have hdrop : List.dropWhile isBlank [b, c] = [c] := by
      rw [List.dropWhile_cons_of_pos hb, List.dropWhile_cons_of_neg (by simp [hc])]
    refine ⟨c, [], ?_, .inl rfl⟩
    rw [List.isEmpty_iff.mp hnil, hdrop]
    exact trimEnd_of_last fun d hd => Option.some.inj hd ▸ hc
  next =>
    have hend :
        trimEnd (List.dropWhile isBlank cs ++ [b, c]) = List.dropWhile isBlank cs ++ [b, c] := by
      apply trimEnd_of_last
      intro d hd
      rw [List.getLast?_append_of_ne_nil _ (by simp)] at hd
      exact Option.some.inj hd ▸ hc
    have hsplit : trimEnd (List.dropWhile isBlank cs) ++
        List.rtakeWhile isBlank (List.dropWhile isBlank cs) = List.dropWhile isBlank cs :=
      List.rdropWhile_append_rtakeWhile
    rw [hend]
    -- blanks at the end of `cs` are inside now, and the first of them is the new character
    cases hblanks : List.rtakeWhile isBlank (List.dropWhile isBlank cs) with
    | nil =>
      rw [hblanks, List.append_nil] at hsplit
      exact ⟨b, [c], by rw [hsplit], .inr hb⟩
    | cons d more =>
      have hd : isBlank d = true := by
        apply List.mem_rtakeWhile_imp (l := List.dropWhile isBlank cs)
        rw [hblanks]
        exact List.mem_cons_self
      rw [hblanks] at hsplit
      refine ⟨d, more ++ [b, c], ?_, .inr hd⟩
      rw [← List.cons_append, ← List.append_assoc, hsplit]

end Remap.Text
