import Remap.Text.Search
/-!
# Splitting at characters

How `splitAt` goes along with appending and joining. Main statements: `splitAt_append_cons`, and
`splitAt_join`, by which splitting undoes joining.
-/

namespace Remap.Text

/-- Splitting on both sides of a character that is split at. -/
theorem splitAt_append_cons {p : Char → Bool} {d : Char} (hd : p d = true) (a b : List Char) :
    splitAt p (a ++ d :: b) = splitAt p a ++ splitAt p b := by
  induction a with
  | nil =>
    show splitAt p (d :: b) = [] :: splitAt p b
    rw [splitAt, if_pos hd]
  | cons c a ih =>
    rw [List.cons_append, splitAt, splitAt, ih]
    split
    · rfl
    · cases h : splitAt p a with
      | nil => exact absurd h (splitAt_ne_nil p a)
      | cons q qs => rfl

theorem splitAt_of_forall {p : Char → Bool} {a : List Char} (h : ∀ c ∈ a, p c = false) :
    splitAt p a = [a] := by
  induction a with
  | nil => rfl
  | cons c a ih =>
    rw [splitAt, if_neg (by simp [h c (by simp)]), ih (fun x hx => h x (by simp [hx]))]

theorem of_mem_splitAt {p : Char → Bool} {cs q : List Char} (hq : q ∈ splitAt p cs) :
    ∀ c ∈ q, p c = false := by
  induction cs generalizing q with
  | nil =>
    rw [splitAt, List.mem_singleton] at hq
    simp [hq]
  | cons c cs ih =>
    rw [splitAt] at hq
    split at hq
    · rcases List.mem_cons.mp hq with rfl | hq
      · simp
      · exact ih hq
    next hc =>
      split at hq
      next h => exact absurd h (splitAt_ne_nil p cs)
      -- the character goes to the first part of the rest, since it does not split
      next r rs h =>
        rw [h] at ih
        rcases List.mem_cons.mp hq with rfl | hq
        · intro x hx
          rcases List.mem_cons.mp hx with rfl | hx
          · simpa using hc
          · exact ih (by simp) x hx
        · exact ih (by simp [hq])

theorem mem_of_mem_splitAt {p : Char → Bool} {cs q : List Char} {c : Char} (hq : q ∈ splitAt p cs)
    (hc : c ∈ q) : c ∈ cs := by
  induction cs generalizing q with
  | nil =>
    rw [splitAt, List.mem_singleton] at hq
    simp [hq] at hc
  | cons d cs ih =>
    rw [splitAt] at hq
    split at hq
    · rcases List.mem_cons.mp hq with rfl | hq
      · cases hc
      · exact List.mem_cons_of_mem d (ih hq hc)
    · split at hq
      next h => exact absurd h (splitAt_ne_nil p cs)
      next r rs h =>
        rw [h] at ih
        rcases List.mem_cons.mp hq with rfl | hq
        · rcases List.mem_cons.mp hc with rfl | hc
          · exact List.mem_cons_self
          · exact List.mem_cons_of_mem d (ih List.mem_cons_self hc)
        · exact List.mem_cons_of_mem d (ih (List.mem_cons_of_mem r hq) hc)

/-- Splitting gives back the parts that were joined, if none of them is split itself. -/
theorem splitAt_join {d : Char} {ps : List (List Char)} (hne : ps ≠ [])
    (h : ∀ q ∈ ps, ∀ c ∈ q, (c == d) = false) : splitAt (· == d) (join [d] ps) = ps := by
  induction ps with
  | nil => exact absurd rfl hne
  | cons q ps ih =>
    have hq := splitAt_of_forall (h q (by simp))
    cases ps with
    | nil => exact hq
    | cons r rs =>
      rw [join_cons (by simp), List.append_assoc, List.singleton_append,
        splitAt_append_cons (by simp), hq, ih (by simp) (fun x hx => h x (by simp [hx]))]
      rfl

/-- A character of joined parts stands between two of them or in one. -/
theorem mem_join {sep : List Char} {ps : List (List Char)} {c : Char} (h : c ∈ join sep ps) :
    c ∈ sep ∨ ∃ p ∈ ps, c ∈ p := by
  induction ps with
  | nil => cases h
  | cons p ps ih =>
    by_cases hps : ps = []
    · subst hps
      exact .inr ⟨p, List.mem_cons_self, h⟩
    · rw [join_cons hps, List.append_assoc] at h
      rcases List.mem_append.mp h with h | h
      · exact .inr ⟨p, List.mem_cons_self, h⟩
      · rcases List.mem_append.mp h with h | h
        · exact .inl h
        · refine (ih h).imp_right ?_
          rintro ⟨q, hq, hc⟩
          exact ⟨q, List.mem_cons_of_mem p hq, hc⟩

end Remap.Text
