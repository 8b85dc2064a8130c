import Remap.Proofs.Text.Search
/-!
# Where a word occurs first

`FirstAt` says that a word stands between two texts and nowhere further left. That is what
`Text.cutFirst` finds, for the empty word too. Whether an occurrence is the first one depends only
on the text up to its last character but one.

Main statements: `cutFirst_eq_some_iff` and `firstAt_iff_absent`.
-/

namespace Remap.Text

variable {w cs b a : List Char}

/-- The word `w` stands in `cs` between `b` and `a`, and nowhere further left. -/
structure FirstAt (w cs b a : List Char) : Prop where
  eq : cs = b ++ w ++ a
  least : ∀ b' a', cs = b' ++ w ++ a' → b.length ≤ b'.length

/-- A word occurs first at one place only. -/
theorem FirstAt.unique {b' a' : List Char} (h : FirstAt w cs b a) (h' : FirstAt w cs b' a') :
    b = b' ∧ a = a' := by
  have hlength : b.length = b'.length := Nat.le_antisymm (h.least _ _ h'.eq) (h'.least _ _ h.eq)
  have heq : b ++ (w ++ a) = b' ++ (w ++ a') := by
    rw [← List.append_assoc, ← List.append_assoc, ← h.eq, h'.eq]
  obtain ⟨hb, hrest⟩ := List.append_inj heq hlength
  exact ⟨hb, List.append_cancel_left hrest⟩

/-- The empty word occurs first at the front. -/
theorem FirstAt.eq_nil (h : FirstAt [] cs b a) : b = [] :=
  List.length_eq_zero_iff.mp (Nat.le_zero.mp (h.least [] cs rfl))

/-! ## What is cut -/

theorem firstAt_of_cutFirst (h : cutFirst w cs = some (b, a)) : FirstAt w cs b a := by
  refine ⟨eq_of_cutFirst h, ?_⟩
  induction cs generalizing b with
  | nil =>
    intro b' a' _
    have hnil : [] = b ++ (w ++ a) := by rw [← List.append_assoc, ← eq_of_cutFirst h]
    rw [(List.append_eq_nil_iff.mp hnil.symm).1]
    exact Nat.zero_le _
  | cons c cs ih =>
    intro b' a' he
    by_cases hp : w <+: c :: cs
    · rw [cutFirst_of_isPrefix hp] at h
      cases h
      exact Nat.zero_le _
    · rw [cutFirst_cons_of_not_isPrefix hp] at h
      obtain ⟨⟨b₁, a₁⟩, hcut, hpair⟩ := Option.map_eq_some_iff.mp h
      cases hpair
      -- the word does not stand in front, so every occurrence lies behind the first character
      cases b' with
      | nil => exact absurd ⟨a', he.symm⟩ hp
      | cons d b' =>
        have hcs : cs = b' ++ w ++ a' := (List.cons.inj he).2
        exact Nat.succ_le_succ (ih hcut b' a' hcs)

theorem isSome_cutFirst (h : w <:+: cs) : ∃ b a, cutFirst w cs = some (b, a) := by
  cases hcut : cutFirst w cs with
  | some x => exact ⟨x.1, x.2, rfl⟩
  | none =>
    by_cases hw : w = []
    · subst hw
      rw [cutFirst_of_isPrefix List.nil_prefix] at hcut
      cases hcut
    · exact absurd h ((cutFirst_eq_none_iff hw).mp hcut)

/-- What is cut is the first occurrence. -/
theorem cutFirst_eq_some_iff : cutFirst w cs = some (b, a) ↔ FirstAt w cs b a := by
  constructor
  · exact firstAt_of_cutFirst
  · intro h
    obtain ⟨b', a', hcut⟩ := isSome_cutFirst ⟨b, a, h.eq.symm⟩
    obtain ⟨rfl, rfl⟩ := h.unique (firstAt_of_cutFirst hcut)
    exact hcut

/-- A word does not occur before its first occurrence. -/
theorem FirstAt.not_infix (hw : w ≠ []) (h : FirstAt w cs b a) : ¬ w <:+: b :=
  not_infix_of_cutFirst hw (cutFirst_eq_some_iff.mpr h)

/-! ## The text before -/

theorem prefix_concat_dropLast (b w : List Char) : b ++ w.dropLast <+: b ++ w :=
  (List.prefix_append_right_inj b).mpr (List.dropLast_prefix w)

/-- An occurrence is the first one exactly if the word does not occur when its last character is
taken off, whatever follows. -/
theorem firstAt_iff_absent (hw : w ≠ []) :
    FirstAt w (b ++ w ++ a) b a ↔ ¬ w <:+: b ++ w.dropLast := by
  have hpos := List.length_pos_iff.mpr hw
  have hprefix : b ++ w.dropLast <+: b ++ w ++ a :=
    (prefix_concat_dropLast b w).trans (List.prefix_append _ a)
  constructor
  · rintro h ⟨b', a', he⟩
    obtain ⟨rest, hrest⟩ := hprefix
    have hle : b.length ≤ b'.length := by
      apply h.least b' (a' ++ rest)
      rw [← hrest, ← he, List.append_assoc]
    have hlength := congrArg List.length he
    simp only [List.length_append, List.length_dropLast] at hlength
    omega
  · intro hno
    refine ⟨rfl, ?_⟩
    intro b' a' he
    apply Nat.le_of_not_lt
    intro hlt
    -- an occurrence further left ends before the last character
    have hb' : b' ++ w <+: b ++ w.dropLast := by
      apply List.prefix_of_prefix_length_le ⟨a', he.symm⟩ hprefix
      simp only [List.length_append, List.length_dropLast]
      omega
    exact hno ((List.suffix_append b' w).isInfix.trans hb'.isInfix)

/-! ## Longer texts -/

/-- The first occurrence of a word stays the first one, whatever follows the text. -/
theorem cutFirst_append (hw : w ≠ []) (h : cutFirst w cs = some (b, a)) (more : List Char) :
    cutFirst w (cs ++ more) = some (b, a ++ more) := by
  have hfirst := cutFirst_eq_some_iff.mp h
  obtain rfl := hfirst.eq
  rw [cutFirst_eq_some_iff, List.append_assoc (b ++ w), firstAt_iff_absent hw]
  exact (firstAt_iff_absent hw).mp hfirst

/-- What stands before a word that occurs does not depend on what follows the text. -/
theorem before_append (hw : w ≠ []) (h : w <:+: cs) (more : List Char) :
    before w (cs ++ more) = before w cs := by
  obtain ⟨b, a, hcut⟩ := isSome_cutFirst h
  rw [before, cutFirst_append hw hcut, before, hcut]

end Remap.Text
