import Mathlib.Data.List.Find
import Remap.Regex.Parser.Group
import Remap.Proofs.Regex.Enclosed.Escape
/-!
# Openings and repetitions in an expression in parentheses

What opens a group, and what says how often something is repeated, is read in parentheses as it is
read alone.

Main statements: `follows_readOpening` and `follows_readRepetition`.
-/

namespace Remap.Regex

open Cursor (Enclosed)

variable {n : Nat} {c d : Cursor}

/-- What is not found under a name is not found in a list with the same names. -/
theorem find?_fst_eq_none {α β : Type} [BEq α] {xs ys : List (α × β)} {a : α}
    (h : ys.map Prod.fst = xs.map Prod.fst) (hxs : xs.find? (fun x => x.1 == a) = none) :
    ys.find? (fun y => y.1 == a) = none := by
  have hfind : ∀ zs : List (α × β), zs.find? (fun z => z.1 == a) = none ↔
      (zs.map Prod.fst).find? (· == a) = none := by
    intro zs
    rw [List.find?_map, Option.map_eq_none_iff]
    rfl
  rw [hfind] at hxs ⊢
  rw [h, hxs]

/-! ## Flags -/

/-- The flags that have been read, without their places. -/
def FlagsRead.bare (r : FlagsRead) : FlagsRead where
  flags := r.flags.map fun f => (f.1, f.2.1, {})
  minus := r.minus.map fun _ => {}
  dangling := r.dangling

variable {r r' : FlagsRead}

theorem FlagsRead.map_flags (h : r'.bare = r.bare) :
    (r'.flags.map fun (m, on, _) => (m, on)) = r.flags.map fun (m, on, _) => (m, on) := by
  have hflags := congrArg (List.map fun f => (f.1, f.2.1)) (congrArg FlagsRead.flags h)
  simpa only [FlagsRead.bare, List.map_map, Function.comp_def] using hflags

theorem FlagsRead.map_fst_flags (h : r'.bare = r.bare) :
    r'.flags.map Prod.fst = r.flags.map Prod.fst := by
  have hflags := congrArg (List.map Prod.fst) (congrArg FlagsRead.flags h)
  simpa only [FlagsRead.bare, List.map_map, Function.comp_def] using hflags

/-- A minus sign has been read in both or in neither. -/
theorem FlagsRead.minus_cases (h : r'.bare = r.bare) :
    (∃ span span', r.minus = some span ∧ r'.minus = some span') ∨
      r.minus = none ∧ r'.minus = none := by
  have hminus : r'.minus.map (fun _ => ({} : Span)) = r.minus.map fun _ => {} :=
    congrArg FlagsRead.minus h
  cases hr : r.minus with
  | none =>
    rw [hr] at hminus
    exact .inr ⟨rfl, Option.map_eq_none_iff.mp hminus⟩
  | some span =>
    rw [hr] at hminus
    obtain ⟨span', hr', -⟩ := Option.map_eq_some_iff.mp hminus
    exact .inl ⟨span, span', rfl, hr'⟩

/-- Flags are read alike, up to a character that comes next in both. -/
theorem follows_readFlags {j k : Nat} (hjk : j ≤ k) (h : c.Enclosed n d)
    (hr : r'.bare = r.bare) :
    Follows (fun x y => Alike id n x y ∧ y.2.peek = x.2.peek) (readFlags j r c)
      (readFlags k r' d) := by
  induction j generalizing k c d r r' with
  | zero => exact .fault
  | succ j ih =>
    obtain ⟨k, rfl⟩ : ∃ i, k = i + 1 := ⟨k - 1, by omega⟩
    obtain ⟨hflags, hminus, hdangling⟩ := FlagsRead.mk.inj hr
    -- after a letter or a minus both go on in the same state, but for the spans
    have hrest {a b : FlagsRead} (hab : b.bare = a.bare) :=
      ih (Nat.le_of_succ_le_succ hjk) (h.advance.mono (Nat.sub_le n 1)) hab
    rw [readFlags, readFlags]
    cases hp : c.peek with
    | none => exact .fault
    | some x =>
      have hd := h.peek_of_some hp
      have hpeek : d.peek = c.peek := by rw [hp, hd]
      rw [hd]
      refine .ite (fun _ => ?_) fun _ => .ite (fun _ => ?_) fun _ => ?_
      · rw [FlagsRead.map_flags hr, hdangling]
        obtain ⟨span, span', hm, hm'⟩ | ⟨hm, hm'⟩ := FlagsRead.minus_cases hr
        · rw [hm, hm']
          exact .ite (fun _ => .fault) fun _ => .ok ⟨⟨rfl, h⟩, hpeek⟩
        · rw [hm, hm']
          exact .ok ⟨⟨rfl, h⟩, hpeek⟩
      · obtain ⟨span, span', hm, hm'⟩ | ⟨hm, hm'⟩ := FlagsRead.minus_cases hr
        · rw [hm, hm']
          exact .error
        · rw [hm, hm']
          apply hrest
          simp only [FlagsRead.bare, hflags, Option.map_some]
      · cases Modifier.ofLetter? x with
        | none => exact .fault
        | some m =>
          dsimp only
          cases hfind : r.flags.find? fun f => f.1 == m with
          | some f => exact .error
          | none =>
            rw [find?_fst_eq_none (FlagsRead.map_fst_flags hr) hfind]
            apply hrest
            have hon : r'.minus.isNone = r.minus.isNone := by
              simpa only [Option.isNone_map] using congrArg Option.isNone hminus
            simp only [FlagsRead.bare, List.map_append, hflags, hminus, hon, List.map_cons,
              List.map_nil]

/-! ## Names -/

/-- A name is read up to its end in what is left alone, so that what comes behind does not matter. -/
theorem follows_readNameRest (h : c.Enclosed n d) (first : Bool) (xs ys : List Char) :
    Follows (Alike id n) (readNameRest first xs c) (readNameRest first (xs ++ ys) d) := by
  induction xs generalizing first c d with
  | nil => exact .fault
  | cons x xs ih =>
    rw [List.cons_append, readNameRest, readNameRest]
    apply Follows.ite
    · exact fun _ => .ok ⟨rfl, h⟩
    · intro _
      refine .ite (fun _ => ?_) fun _ => .fault
      apply (ih (h.advance.mono (Nat.sub_le n 1)) false).bind
      rintro ⟨name, e⟩ ⟨name', e'⟩ ⟨hname, he⟩
      obtain rfl : name' = name := hname
      exact .ok ⟨rfl, he⟩

/-- A name that is not in use is read alike. -/
theorem follows_readName (h : c.Enclosed n d) {names names' : NamesRead}
    (hnames : names'.map Prod.fst = names.map Prod.fst) :
    Follows (Alike Prod.fst n) (readName names c) (readName names' d) := by
  have hname : Follows (Alike id n) (readNameRest true c.rest c) (readNameRest true d.rest d) := by
    rcases h.rest_eq with hrest | ⟨hc, -⟩
    · rw [hrest]
      exact follows_readNameRest h true c.rest [')']
    · rw [hc]
      exact .fault
  apply hname.bind
  rintro ⟨name, e⟩ ⟨name', e'⟩ ⟨hsame, he⟩
  obtain rfl : name' = name := hsame
  refine .ite (fun _ => .fault) fun _ => ?_
  cases hfind : names.find? fun n => n.1 == name' with
  | some old => exact .error
  | none =>
    rw [find?_fst_eq_none hnames hfind]
    exact .ok ⟨rfl, he.advance.mono (Nat.sub_le n 1)⟩

/-! ## Openings -/

/-- What is opened, without its span. -/
def Opening.bare : Opening → Opening
  | directive _ ms => .directive {} ms
  | numbered => .numbered
  | withName name _ => .withName name {}
  | plain ms => .plain ms

/-- What opens a group is read alike. -/
theorem follows_readOpening (h : c.Enclosed n d) {names names' : NamesRead}
    (hnames : names'.map Prod.fst = names.map Prod.fst) :
    Follows (Alike Opening.bare (n - 1)) (readOpening names c) (readOpening names' d) := by
  have hnext := h.next
  have hwithName (x y : (List Char × Span) × Cursor) (h : Alike Prod.fst (n - 1) x y) :
      Follows (Alike Opening.bare (n - 1)) (.ok (.withName x.1.1 x.1.2, x.2))
        (.ok (.withName y.1.1 y.1.2, y.2)) := by
    refine .ok ⟨?_, h.2⟩
    have hname : y.1.1 = x.1.1 := h.1
    simp only [Opening.bare, hname]
  have hsigns : ∀ w ∈ lookAroundSigns, ')' ∉ w := by decide
  -- no sign contains the closing parenthesis, so a sign is in both texts or in neither
  have hlook : (lookAroundSigns.find? fun w => d.next.startsWith w) =
      lookAroundSigns.find? fun w => c.next.startsWith w :=
    List.find?_congr fun w hw => hnext.startsWith_eq (hsigns w hw)
  unfold readOpening
  dsimp only
  rw [hlook]
  cases lookAroundSigns.find? fun w => c.next.startsWith w with
  | some w => exact .fault
  | none =>
    dsimp only
    rw [hnext.startsWith_eq (by decide), hnext.startsWith_eq (by decide)]
    refine .ite (fun _ => (follows_readName (hnext.advanceBy 3) hnames).bind hwithName) fun _ =>
      .ite (fun _ => (follows_readName (hnext.advanceBy 2) hnames).bind hwithName) fun _ => ?_
    apply Follows.ite_of_iff (hnext.peek_eq_some_iff (by decide))
    · intro _
      have hflags := hnext.advance.mono (Nat.sub_le (n - 1) 1)
      by_cases hend : c.next.advance.atEnd = true
      · rw [if_pos hend]
        exact .fault
      rw [if_neg hend, if_neg (hflags.atEnd_eq_false hend)]
      apply (follows_readFlags (Nat.succ_le_succ hflags.length_rest_le) hflags rfl).bind
      rintro ⟨ms, f⟩ ⟨ms', f'⟩ ⟨⟨hms, hf⟩, hpeek⟩
      obtain rfl : ms' = ms := hms
      have hstop := hf.advance.mono (Nat.sub_le (n - 1) 1)
      apply Follows.ite_of_iff
      · exact Eq.congr_left hpeek
      · exact fun _ => .ite (fun _ => .fault) fun _ => .ok ⟨rfl, hstop⟩
      · exact fun _ => .ok ⟨rfl, hstop⟩
    · exact fun _ => .ok ⟨rfl, hnext⟩

/-! ## Repetitions -/

/-- A number with blanks around it is read alike. -/
theorem follows_readDecimal (h : c.Enclosed n d) :
    Follows Eq (readDecimal c).1 (readDecimal d).1 ∧
      (readDecimal c).2.Enclosed n (readDecimal d).2 := by
  obtain ⟨digits, e, e', hc, hd, he⟩ := h.dropBlanks.takeNextWhile (p := Char.isDigit)
    (.inl (by decide))
  unfold readDecimal
  dsimp only
  rw [hc, hd]
  exact ⟨.ite (fun _ => .fault) fun _ => .ite (fun _ => .fault) fun _ => .ok rfl, he.dropBlanks⟩

/-- A count in braces is read alike. -/
theorem follows_readCount (h : c.Enclosed n d) :
    Follows (Alike id (n - 1)) (readCount c) (readCount d) := by
  have hnext := h.next
  unfold readCount
  dsimp only
  by_cases hend : c.next.atEnd = true
  · rw [if_pos hend]
    exact .fault
  rw [if_neg hend, if_neg (hnext.atEnd_eq_false hend)]
  obtain ⟨hleast, he⟩ := follows_readDecimal hnext
  generalize readDecimal c.next = first, readDecimal d.next = first' at hleast he ⊢
  obtain ⟨least, e⟩ := first
  obtain ⟨least', e'⟩ := first'
  have he : e.Enclosed (n - 1) e' := he
  cases hp : e.peek with
  | none => exact .fault
  | some x =>
    have hf := he.next.mono (Nat.sub_le (n - 1) 1)
    dsimp only
    rw [he.peek_of_some hp]
    split
    next heq => cases heq
    next =>
      -- behind a comma comes the closing brace or a second number
      cases hp' : e.next.peek with
      | none => exact .fault
      | some y =>
        rw [hf.peek_of_some hp']
        split
        next heq => cases heq
        next => exact hleast.bind_eq fun _ => .ok ⟨rfl, hf⟩
        next =>
          obtain ⟨hmost, hg⟩ := follows_readDecimal hf
          exact hleast.bind_eq fun _ => hmost.bind_eq fun _ => .ok ⟨rfl, hg⟩
    next => exact hleast.bind_eq fun _ => .ok ⟨rfl, he⟩

theorem alike_readGreed (h : c.Enclosed n d) : Alike id n (readGreed c) (readGreed d) := by
  unfold readGreed
  simp only [h.peek_eq_some_iff (x := '?') (by decide)]
  split
  · exact ⟨rfl, h.advance.mono (Nat.sub_le n 1)⟩
  · exact ⟨rfl, h⟩

/-- The sign of a repetition is read alike. -/
theorem follows_readRepetition (h : c.Enclosed n d) (sign : Char) :
    Follows (Alike id (n - 1)) (readRepetition sign c) (readRepetition sign d) := by
  have hsimple (count : Count) : Follows (Alike id (n - 1))
      (Except.ok ((count, (readGreed c.advance).1), (readGreed c.advance).2))
      (Except.ok ((count, (readGreed d.advance).1), (readGreed d.advance).2)) := by
    obtain ⟨hgreedy, he⟩ := alike_readGreed h.advance
    exact .ok ⟨congrArg (Prod.mk count) hgreedy, he⟩
  unfold readRepetition
  split
  · exact hsimple _
  · exact hsimple _
  · exact hsimple _
  · apply (follows_readCount h).bind
    rintro ⟨count, e⟩ ⟨count', e'⟩ ⟨hcount, he⟩
    obtain rfl : count' = count := hcount
    obtain ⟨hgreedy, hg⟩ := alike_readGreed (he.next.mono (Nat.sub_le (n - 1) 1))
    apply Follows.ite_of_iff (not_congr (he.peek_eq_some_iff (by decide)))
    · exact fun _ => .fault
    · intro _
      dsimp only
      cases count'.most with
      | some m => exact .ite (fun _ => .fault) fun _ => .ok ⟨congrArg (Prod.mk count') hgreedy, hg⟩
      | none => exact .ok ⟨congrArg (Prod.mk count') hgreedy, hg⟩

end Remap.Regex
