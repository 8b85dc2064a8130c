import Mathlib.Data.List.TakeWhile
import Remap.Regex.Cursor
import Remap.Proofs.Text.Search
/-!
# A place in an expression in parentheses

An expression may stand alone or in parentheses. `Cursor.Enclosed` compares a cursor in it with one
at the same place in the parentheses: the closing one stands behind what is left. Only where nothing
is left can it make a difference, and in verbose mode a comment at the end swallows it.

Main statements: the steps of a cursor lead from such places to such places.
-/

namespace Remap.Regex.Cursor

theorem rest_advance (c : Cursor) : c.advance.rest = c.rest.tail := by
  unfold advance
  split
  next hc => rw [hc]; rfl
  next hc => rw [hc]; rfl

theorem rest_advanceBy (k : Nat) (c : Cursor) : (c.advanceBy k).rest = c.rest.drop k := by
  induction k generalizing c with
  | zero => rfl
  | succ k ih => rw [advanceBy, ih, rest_advance, List.drop_tail]

theorem verbose_advance (c : Cursor) : c.advance.verbose = c.verbose := by
  unfold advance
  split <;> rfl

/-- `d` stands where `c` stands, with a closing parenthesis behind what is left, unless nothing is
left of either. At most `n` characters are left at `c`. -/
structure Enclosed (n : Nat) (c d : Cursor) : Prop where
  length_le : c.rest.length ≤ n
  verbose_eq : d.verbose = c.verbose
  rest_eq : d.rest = c.rest ++ [')'] ∨ c.rest = [] ∧ d.rest = []

namespace Enclosed

variable {n m : Nat} {c d : Cursor}

theorem mono (h : c.Enclosed n d) (hle : n ≤ m) : c.Enclosed m d :=
  ⟨Nat.le_trans h.length_le hle, h.verbose_eq, h.rest_eq⟩

theorem withVerbose (h : c.Enclosed n d) (verbose : Bool) :
    Enclosed n { c with verbose } { d with verbose } := ⟨h.length_le, rfl, h.rest_eq⟩

/-! ## Looking at what is left -/

theorem peek_of_some (h : c.Enclosed n d) {x : Char} (hx : c.peek = some x) :
    d.peek = some x := by
  obtain ⟨xs, hxs⟩ := List.head?_eq_some_iff.mp hx
  rcases h.rest_eq with hd | ⟨hc, -⟩
  · rw [peek, hd, hxs]
    rfl
  · rw [hxs] at hc
    cases hc

/-- The same character comes next, if it is not the closing parenthesis. -/
theorem peek_eq_some_iff (h : c.Enclosed n d) {x : Char} (hx : x ≠ ')') :
    d.peek = some x ↔ c.peek = some x := by
  refine ⟨fun hd => ?_, h.peek_of_some⟩
  rcases h.rest_eq with hrest | ⟨-, hrest⟩
  · cases hc : c.rest with
    | nil =>
      rw [peek, hrest, hc] at hd
      exact absurd (Option.some.inj hd).symm hx
    | cons y ys =>
      rw [peek, hrest, hc] at hd
      rw [peek, hc]
      exact hd
  · rw [peek, hrest] at hd
    cases hd

theorem length_rest_le (h : c.Enclosed n d) : c.rest.length ≤ d.rest.length := by
  rcases h.rest_eq with hrest | ⟨hc, -⟩
  · rw [hrest, List.length_append]
    exact Nat.le_add_right _ _
  · rw [hc]
    exact Nat.zero_le _

theorem rest_of_peek_eq_none (hc : c.peek = none) : c.rest = [] := List.head?_eq_none_iff.mp hc

theorem pos_of_peek (h : c.Enclosed n d) {x : Char} (hx : c.peek = some x) : 0 < n := by
  obtain ⟨xs, hxs⟩ := List.head?_eq_some_iff.mp hx
  have := h.length_le
  rw [hxs] at this
  exact Nat.lt_of_lt_of_le (Nat.succ_pos _) this

/-- If anything is left alone, it is left in parentheses. -/
theorem atEnd_eq_false (h : c.Enclosed n d) (hc : ¬ c.atEnd = true) : ¬ d.atEnd = true := by
  rcases h.rest_eq with hrest | ⟨hnil, -⟩
  · rw [atEnd, hrest, List.isEmpty_iff]
    exact List.append_ne_nil_of_right_ne_nil _ (List.cons_ne_nil _ _)
  · rw [atEnd, hnil] at hc
    exact absurd rfl hc

/-- A word without the parenthesis begins what is left, or does not. -/
theorem startsWith_eq (h : c.Enclosed n d) {w : List Char} (hw : ')' ∉ w) :
    d.startsWith w = c.startsWith w := by
  unfold startsWith
  rcases h.rest_eq with hrest | ⟨hc, hd⟩
  · rw [hrest, Bool.eq_iff_iff, List.isPrefixOf_iff_prefix, List.isPrefixOf_iff_prefix]
    exact ⟨Text.prefix_of_prefix_append_cons hw, fun hp => hp.trans (List.prefix_append _ _)⟩
  · rw [hc, hd]

/-! ## Steps -/

theorem tail_eq (h : c.Enclosed n d) :
    d.rest.tail = c.rest.tail ++ [')'] ∨ c.rest.tail = [] ∧ d.rest.tail = [] := by
  rcases h.rest_eq with hrest | ⟨hc, hd⟩
  · rw [hrest]
    cases c.rest with
    | nil => exact .inr ⟨rfl, rfl⟩
    | cons x xs => exact .inl rfl
  · rw [hc, hd]
    exact .inr ⟨rfl, rfl⟩

theorem advance (h : c.Enclosed n d) : c.advance.Enclosed (n - 1) d.advance := by
  refine ⟨?_, ?_, ?_⟩
  · rw [length_advance]
    exact Nat.sub_le_sub_right h.length_le 1
  · rw [verbose_advance, verbose_advance, h.verbose_eq]
  · rw [rest_advance, rest_advance]
    exact h.tail_eq

theorem advanceBy (h : c.Enclosed n d) (k : Nat) :
    (c.advanceBy k).Enclosed n (d.advanceBy k) := by
  induction k generalizing c d with
  | zero => exact h
  | succ k ih => exact ih (h.advance.mono (Nat.sub_le n 1))

/-- The parenthesis is neither white space nor the sign of a comment; it is passed over only within
a comment that goes on up to it. -/
theorem skipFrom_append (inside : Bool) (pos pos' : Position) (cs : List Char) :
    (skipFrom inside pos' (cs ++ [')'])).2 = (skipFrom inside pos cs).2 ++ [')'] ∨
      (skipFrom inside pos cs).2 = [] ∧ (skipFrom inside pos' (cs ++ [')'])).2 = [] := by
  induction cs generalizing inside pos pos' with
  | nil =>
    cases inside with
    | true => exact .inr ⟨rfl, rfl⟩
    | false => exact .inl rfl
  | cons x cs ih =>
    rw [List.cons_append, skipFrom, skipFrom]
    split
    · exact ih _ _ _
    · split
      · exact ih _ _ _
      · split
        · exact ih _ _ _
        · exact .inl rfl

theorem skip (h : c.Enclosed n d) : c.skip.Enclosed n d.skip := by
  have hlength := Nat.le_trans (length_skip_le c) h.length_le
  cases hv : c.verbose with
  | false =>
    have hd := h.verbose_eq.trans hv
    have hc : c.skip = c := by rw [Cursor.skip, hv]; rfl
    have hd : d.skip = d := by rw [Cursor.skip, hd]; rfl
    rw [hc, hd]
    exact h
  -- comments end at the same line break, or run to the end of both texts
  | true =>
    have hd := h.verbose_eq.trans hv
    have hskip : ∀ e : Cursor, e.verbose = true →
        e.skip.rest = (skipFrom false e.pos e.rest).2 ∧ e.skip.verbose = true := by
      intro e he
      unfold Cursor.skip
      rw [if_pos he]
      exact ⟨rfl, he⟩
    obtain ⟨hrest, hverbose⟩ := hskip c hv
    obtain ⟨hrest', hverbose'⟩ := hskip d hd
    refine ⟨hlength, by rw [hverbose, hverbose'], ?_⟩
    rw [hrest, hrest']
    rcases h.rest_eq with heq | ⟨hc, hd⟩
    · rw [heq]
      exact skipFrom_append false c.pos d.pos c.rest
    · rw [hc, hd]
      exact .inr ⟨rfl, rfl⟩

theorem next (h : c.Enclosed n d) : c.next.Enclosed (n - 1) d.next := h.advance.skip

/-- The row of characters that satisfy `p` is the same, unless it goes up to the end. -/
theorem takeWhile_rest (h : c.Enclosed n d) (p : Char → Bool) :
    d.rest.takeWhile p = c.rest.takeWhile p ∨
      p ')' = true ∧ c.rest.takeWhile p = c.rest ∧ d.rest.takeWhile p = d.rest := by
  rcases h.rest_eq with hrest | ⟨hc, hd⟩
  · rw [hrest, List.takeWhile_append]
    split
    next hall =>
      have hwhole : c.rest.takeWhile p = c.rest := (List.takeWhile_prefix p).eq_of_length hall
      cases hp : p ')' with
      | true => exact .inr ⟨rfl, hwhole, by rw [List.takeWhile_cons_of_pos hp]; rfl⟩
      | false =>
        rw [List.takeWhile_cons_of_neg (by rw [hp]; decide), List.append_nil, hwhole]
        exact .inl rfl
    next => exact .inl rfl
  · rw [hc, hd]
    exact .inl rfl

theorem dropBlanks (h : c.Enclosed n d) : c.dropBlanks.Enclosed n d.dropBlanks := by
  have hsame : d.rest.takeWhile Text.isBlank = c.rest.takeWhile Text.isBlank := by
    rcases h.takeWhile_rest Text.isBlank with hsame | ⟨hblank, -⟩
    · exact hsame
    · exact absurd hblank (by decide)
  unfold Cursor.dropBlanks
  rw [hsame]
  exact h.advanceBy _

/-! ## Rows of characters -/

theorem takeNext_of_stop {p : Char → Bool} (hstop : ∀ x, c.peek = some x → p x = false) (k : Nat) :
    Cursor.takeNext p k c = ([], c) := by
  cases k with
  | zero => rfl
  | succ k =>
    rw [Cursor.takeNext]
    split
    next x hx =>
      rw [hstop x hx]
      rfl
    next => rfl

theorem takeNext_of_peek {p : Char → Bool} {x : Char} (hc : c.peek = some x) (k : Nat) :
    Cursor.takeNext p (k + 1) c =
      if p x = true then (x :: (Cursor.takeNext p k c.next).1, (Cursor.takeNext p k c.next).2)
      else ([], c) := by
  rw [Cursor.takeNext, hc]

/-- Nothing is read at the end, nor in parentheses if the parenthesis is not. -/
theorem takeNext_of_peek_eq_none (h : c.Enclosed n d) {p : Char → Bool} (hc : c.peek = none)
    {j : Nat} (k : Nat) (hp : p ')' = false ∨ ¬ (Cursor.takeNext p j c).2.atEnd = true) :
    Cursor.takeNext p j c = ([], c) ∧ Cursor.takeNext p k d = ([], d) := by
  have hstop : Cursor.takeNext p j c = ([], c) := by
    apply takeNext_of_stop
    intro x hx
    rw [hc] at hx
    cases hx
  refine ⟨hstop, takeNext_of_stop ?_ k⟩
  intro x hx
  by_cases he : x = ')'
  · rcases hp with hp | hend
    · rw [he, hp]
    · rw [hstop] at hend
      exact absurd (List.isEmpty_iff.mpr (rest_of_peek_eq_none hc)) hend
  · rw [h.peek_eq_some_iff he, hc] at hx
    cases hx

/-- The same characters are read up to the first that fails `p`, unless the parenthesis might be
read too. -/
theorem takeNext {p : Char → Bool} {j k : Nat} (h : c.Enclosed n d) (hj : c.rest.length ≤ j)
    (hk : d.rest.length ≤ k)
    (hp : p ')' = false ∨ ¬ (Cursor.takeNext p j c).2.atEnd = true) :
    (Cursor.takeNext p k d).1 = (Cursor.takeNext p j c).1 ∧
      (Cursor.takeNext p j c).2.Enclosed n (Cursor.takeNext p k d).2 := by
  induction j generalizing n c d k with
  | zero =>
    have hc : c.peek = none := by
      rw [peek, List.length_eq_zero_iff.mp (Nat.le_zero.mp hj)]
      rfl
    obtain ⟨hc', hd'⟩ := h.takeNext_of_peek_eq_none hc k hp
    rw [hc', hd']
    exact ⟨rfl, h⟩
  | succ j ih =>
    cases hc : c.peek with
    | none =>
      obtain ⟨hc', hd'⟩ := h.takeNext_of_peek_eq_none hc k hp
      rw [hc', hd']
      exact ⟨rfl, h⟩
    | some x =>
      have hd : d.peek = some x := h.peek_of_some hc
      cases k with
      | zero =>
        rw [peek, List.length_eq_zero_iff.mp (Nat.le_zero.mp hk)] at hd
        cases hd
      | succ k =>
        rw [takeNext_of_peek hc] at hp ⊢
        rw [takeNext_of_peek hd]
        split
        next hx =>
          rw [if_pos hx] at hp
          have hj' : c.next.rest.length ≤ j := by
            have := length_next_le c
            omega
          have hk' : d.next.rest.length ≤ k := by
            have := length_next_le d
            omega
          obtain ⟨hsame, hrest⟩ := ih h.next hj' hk' hp
          exact ⟨congrArg (x :: ·) hsame, hrest.mono (Nat.sub_le n 1)⟩
        next => exact ⟨rfl, h⟩

theorem takeNextWhile {p : Char → Bool} (h : c.Enclosed n d)
    (hp : p ')' = false ∨ ¬ (c.takeNextWhile p).2.atEnd = true) :
    ∃ xs e e', c.takeNextWhile p = (xs, e) ∧ d.takeNextWhile p = (xs, e') ∧ e.Enclosed n e' := by
  obtain ⟨hsame, hrest⟩ := h.takeNext (Nat.le_refl _) (Nat.le_refl _) hp
  exact ⟨_, (c.takeNextWhile p).2, (d.takeNextWhile p).2, rfl, Prod.ext hsame rfl, hrest⟩

/-! ## Looking ahead -/

/-- In verbose mode, a character that is neither white space nor the sign of a comment is seen next
if it comes first behind white space, or behind one such sign there. -/
theorem peekNext_eq_some_iff_of_verbose (hv : c.verbose = true) {x : Char}
    (hblank : Text.isBlank x = false) (hsign : x ≠ '#') :
    c.peekNext = some x ↔ (c.rest.tail.dropWhile Text.isBlank).head? = some x ∨
      ∃ xs, c.rest.tail.dropWhile Text.isBlank = '#' :: xs ∧
        (xs.dropWhile Text.isBlank).head? = some x := by
  unfold peekNext
  rw [if_pos hv]
  generalize c.rest.tail = after
  -- the first character is white space, or it is the one behind the white space
  have hfirst : after.head? = some x → (after.dropWhile Text.isBlank).head? = some x := by
    intro hx
    obtain ⟨rest, rfl⟩ := List.head?_eq_some_iff.mp hx
    rw [List.dropWhile_cons_of_neg (by rw [hblank]; decide)]
    rfl
  dsimp only
  split
  next xs heq =>
    rw [heq] at hfirst ⊢
    have hno : ¬ some '#' = some x := fun he => hsign (Option.some.inj he).symm
    split
    next y ys hxs => simp [hno, hxs]
    next hxs =>
      simp only [List.head?_cons, hno, imp_false] at hfirst
      simp [hfirst, hno, hxs]
  next y ys hne heq =>
    rw [heq]
    have hy : ¬ y = '#' := hne
    simp [hy]
  next heq =>
    rw [heq] at hfirst ⊢
    simp only [List.head?_nil, reduceCtorEq, imp_false] at hfirst
    simp [hfirst]

/-- Behind white space the parenthesis is seen only if nothing else is left. -/
theorem dropWhile_append (cs : List Char) :
    (cs ++ [')']).dropWhile Text.isBlank = cs.dropWhile Text.isBlank ++ [')'] := by
  rw [List.dropWhile_append]
  split
  next h =>
    rw [List.isEmpty_iff.mp h]
    rfl
  next => rfl

theorem head?_append_eq_some_iff {cs : List Char} {x : Char} (hx : x ≠ ')') :
    (cs ++ [')']).head? = some x ↔ cs.head? = some x := by
  cases cs with
  | nil => simp [Ne.symm hx]
  | cons c cs => rfl

/-- The same character is seen next, if it cannot be the parenthesis or be skipped. -/
theorem peekNext_eq_some_iff (h : c.Enclosed n d) {x : Char} (hx : x ≠ ')')
    (hblank : Text.isBlank x = false) (hsign : x ≠ '#') :
    d.peekNext = some x ↔ c.peekNext = some x := by
  cases hv : c.verbose with
  | false =>
    have hd := h.verbose_eq.trans hv
    have hsecond : ∀ e : Cursor, e.verbose = false → e.peekNext = e.rest.tail.head? := by
      intro e he
      rw [peekNext, he]
      rfl
    rw [hsecond c hv, hsecond d hd]
    rcases h.tail_eq with htail | ⟨hc, hd⟩
    · rw [htail, head?_append_eq_some_iff hx]
    · rw [hc, hd]
  | true =>
    rw [peekNext_eq_some_iff_of_verbose hv hblank hsign,
      peekNext_eq_some_iff_of_verbose (h.verbose_eq.trans hv) hblank hsign]
    rcases h.tail_eq with htail | ⟨hc, hd⟩
    -- the next character stands behind blanks, or behind the sign of a comment and blanks
    · rw [htail, dropWhile_append, head?_append_eq_some_iff hx]
      apply or_congr_right
      cases c.rest.tail.dropWhile Text.isBlank with
      | nil => simp
      | cons y ys =>
        have hlast : ((ys ++ [')']).dropWhile Text.isBlank).head? = some x ↔
            (ys.dropWhile Text.isBlank).head? = some x := by
          rw [dropWhile_append, head?_append_eq_some_iff hx]
        constructor
        · rintro ⟨xs, he, hxs⟩
          cases he
          exact ⟨ys, rfl, hlast.mp hxs⟩
        · rintro ⟨xs, he, hxs⟩
          cases he
          exact ⟨ys ++ [')'], rfl, hlast.mpr hxs⟩
    · rw [hc, hd]

end Enclosed
end Remap.Regex.Cursor
