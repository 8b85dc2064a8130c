/-!
# Finding and replacing a word

A word is found at its first occurrence, reading from the left. `cutFirst` splits a text there,
`pieces` goes on with what follows, and `replaceAll` puts another word between the pieces.

Main statements: `stripStart_eq_some_iff`, and `pieces_join`, by which replacing a word by itself
gives the text back.
-/

namespace Remap.Text

/-- `cs` without the word `w` in front of it, if it starts with `w`. -/
def stripStart : (w cs : List Char) → Option (List Char)
  | [], cs => some cs
  | _ :: _, [] => none
  | x :: w, c :: cs => if x = c then stripStart w cs else none

theorem stripStart_eq_some_iff {w cs r : List Char} : stripStart w cs = some r ↔ cs = w ++ r := by
  induction w generalizing cs with
  | nil => simp [stripStart, eq_comm]
  | cons x w ih =>
    cases cs with
    | nil => simp [stripStart]
    | cons c cs =>
      by_cases h : x = c
      · simp [stripStart, h, ih]
      · simp [stripStart, h, Ne.symm h]

/-- What stands before and after the first occurrence of `w`. -/
def cutFirst (w : List Char) : List Char → Option (List Char × List Char)
  | [] => if w = [] then some ([], []) else none
  | c :: cs =>
    match stripStart w (c :: cs) with
    | some r => some ([], r)
    | none => (cutFirst w cs).map fun (before, after) => (c :: before, after)

theorem eq_of_cutFirst {w cs before after : List Char}
    (h : cutFirst w cs = some (before, after)) : cs = before ++ w ++ after := by
  induction cs generalizing before with
  | nil =>
    simp only [cutFirst] at h
    split at h <;> simp_all
  | cons c cs ih =>
    rw [cutFirst] at h
    split at h
    next r hr =>
      cases h
      simpa using stripStart_eq_some_iff.1 hr
    next =>
      obtain ⟨⟨b, a⟩, hc, he⟩ := Option.map_eq_some_iff.1 h
      cases he
      simpa using ih hc

def contains (w cs : List Char) : Bool := (cutFirst w cs).isSome

/-- The text before the first occurrence of `w`, all of it if there is none. -/
def before (w cs : List Char) : List Char :=
  match cutFirst w cs with
  | some (b, _) => b
  | none => cs

/-- A non-empty word leaves less than the whole text behind it. -/
theorem length_after_lt {w cs b a : List Char} (hw : w ≠ [])
    (h : cutFirst w cs = some (b, a)) : a.length < cs.length := by
  have := List.length_pos_iff.2 hw
  simp [eq_of_cutFirst h]
  omega

/-- The pieces between the occurrences of `w`, found one after the other from the left. -/
def pieces (w cs : List Char) : List (List Char) :=
  if _hw : w = [] then [cs]
  else
    match _h : cutFirst w cs with
    | some (b, a) => b :: pieces w a
    | none => [cs]
termination_by cs.length
decreasing_by exact length_after_lt ‹_› ‹_›

/-- The texts in `ps`, with `sep` between each two. -/
def join (sep : List Char) : List (List Char) → List Char
  | [] => []
  | [p] => p
  | p :: q :: ps => p ++ sep ++ join sep (q :: ps)

theorem pieces_ne_nil (w cs : List Char) : pieces w cs ≠ [] := by
  rw [pieces]
  split
  · simp
  · split <;> simp

theorem join_cons {sep p : List Char} {ps : List (List Char)} (h : ps ≠ []) :
    join sep (p :: ps) = p ++ sep ++ join sep ps := by
  cases ps with
  | nil => exact absurd rfl h
  | cons q ps => rfl

theorem pieces_join (w cs : List Char) : join w (pieces w cs) = cs := by
  fun_induction pieces w cs with
  | case1 => rfl
  | case2 cs hw b a h ih => rw [join_cons (pieces_ne_nil w a), ih]; exact (eq_of_cutFirst h).symm
  | case3 => rfl

/-- The text with every occurrence of `w` replaced by `t`; an empty `w` occurs nowhere. -/
def replaceAll (w t cs : List Char) : List Char := join t (pieces w cs)

/-- The parts of `cs` between the characters that satisfy `p`. -/
def splitAt (p : Char → Bool) : List Char → List (List Char)
  | [] => [[]]
  | c :: cs =>
    if p c then [] :: splitAt p cs
    else
      match splitAt p cs with
      | [] => [[c]]
      | q :: qs => (c :: q) :: qs

theorem splitAt_ne_nil (p : Char → Bool) (cs : List Char) : splitAt p cs ≠ [] := by
  cases cs with
  | nil => simp [splitAt]
  | cons c cs =>
    rw [splitAt]
    split
    · simp
    · split <;> simp

theorem join_splitAt (d : Char) (cs : List Char) : join [d] (splitAt (· == d) cs) = cs := by
  induction cs with
  | nil => rfl
  | cons c cs ih =>
    rw [splitAt]
    split
    next h => rw [join_cons (splitAt_ne_nil _ _), ih]; simp [beq_iff_eq.1 h]
    next =>
      split
      next h => exact absurd h (splitAt_ne_nil _ _)
      next q qs h =>
        rw [h] at ih
        cases qs with
        | nil => simpa [join] using congrArg (c :: ·) ih
        | cons r rs => simpa [join] using congrArg (c :: ·) ih

/-- Joining two rows of parts sets their joins apart once more. -/
theorem join_append {sep : List Char} {ps qs : List (List Char)} (hp : ps ≠ []) (hq : qs ≠ []) :
    join sep (ps ++ qs) = join sep ps ++ sep ++ join sep qs := by
  induction ps with
  | nil => exact absurd rfl hp
  | cons p ps ih =>
    cases ps with
    | nil => simp [join, join_cons hq]
    | cons r rs =>
      rw [List.cons_append, join_cons (by simp), ih (by simp), join_cons (List.cons_ne_nil r rs)]
      simp only [List.append_assoc]

end Remap.Text
