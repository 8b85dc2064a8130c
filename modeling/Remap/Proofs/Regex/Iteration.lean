import Remap.Regex.Matcher
/-!
# The matches in a text

Matches are reported one after the other until there is none. `Reports` says so without counting
rounds, and `InOrder` that each match lies in the text, behind the one before it.

Main statements: `reports_allMatches` and `inOrder_allMatches`.
-/

namespace Remap.Regex

variable {a : Automaton} {text : Array Char}

/-! ## Where a match lies -/

/-- A match lies in the text, from `pos` on. -/
structure Match.LiesFrom (text : Array Char) (pos : Nat) (m : Match) : Prop where
  from_le : pos ≤ m.start
  le : m.start ≤ m.stop
  stop_le : m.stop ≤ text.size

theorem lt_size_of_any {f : Char → Bool} {pos : Nat} (h : text[pos]?.any f = true) :
    pos < text.size := by
  cases hc : text[pos]? with
  | none => rw [hc] at h; cases h
  | some c => exact (Array.getElem?_eq_some_iff.mp hc).1

/-- A run ends between where it began and the end of the text. -/
theorem explore_le {p : Program} {fuel pc pos : Nat} {marks : Marks} {tried : Tried}
    {found : Nat × Marks} (hpos : pos ≤ text.size)
    (h : (explore p text fuel pc pos marks tried).1 = some found) :
    pos ≤ found.1 ∧ found.1 ≤ text.size := by
  -- a place is passed only if a character stands there, so that a run never leaves the text
  fun_induction explore p text fuel pc pos marks tried with
  | case1 => cases h
  | case2 => cases h
  | case3 => cases h
  | case4 => cases h; exact ⟨Nat.le_refl _, hpos⟩
  | case5 _ _ pos _ _ _ _ c next _ hc ih =>
    have hlt := (Array.getElem?_eq_some_iff.mp hc).1
    obtain ⟨h1, h2⟩ := ih (by omega) h
    exact ⟨by omega, h2⟩
  | case6 => cases h
  | case7 _ _ pos _ _ _ _ s next _ hs ih =>
    have hlt := lt_size_of_any hs
    obtain ⟨h1, h2⟩ := ih (by omega) h
    exact ⟨by omega, h2⟩
  | case8 => cases h
  | case9 _ _ _ _ _ _ _ _ _ _ _ ih => exact ih hpos h
  | case10 => cases h
  | case11 _ _ _ _ _ _ _ _ _ _ ih => exact ih hpos h
  | case12 _ _ _ _ _ _ _ _ _ _ _ _ he ih =>
    rw [he] at ih
    exact ih hpos h
  | case13 _ _ _ _ _ _ _ _ _ _ _ _ _ ih => exact ih hpos h

namespace Automaton

theorem liesFrom_findAmong {count start : Nat} {tried : Tried} {m : Match}
    (hc : start + count ≤ text.size + 1) (h : a.findAmong text count start tried = some m) :
    m.LiesFrom text start := by
  induction count generalizing start tried with
  | zero => cases h
  | succ count ih =>
    rw [findAmong] at h
    split at h
    next stop marks tried' he =>
      cases h
      have hrun : (explore a.program text (a.fuel text) a.entry start [] tried).1 =
          some (stop, marks) := congrArg Prod.fst he
      obtain ⟨h1, h2⟩ := explore_le (by omega) hrun
      exact ⟨Nat.le_refl _, h1, h2⟩
    next =>
      have := ih (by omega) h
      exact ⟨by have := this.from_le; omega, this.le, this.stop_le⟩

/-- A match that was found lies in the text, from where the search began. -/
theorem liesFrom_find {start : Nat} {m : Match} (h : a.find text start = some m) :
    m.LiesFrom text start := by
  unfold find at h
  by_cases hs : start ≤ text.size
  · exact liesFrom_findAmong (by omega) h
  · rw [show text.size + 1 - start = 0 by omega] at h
    cases h

theorem liesFrom_findNext {start : Nat} {last : Option Nat} {m : Match}
    (h : a.findNext text start last = some m) : m.LiesFrom text start := by
  unfold findNext at h
  split at h
  · cases h
  next k hk =>
    split at h
    · have := liesFrom_find h
      exact ⟨by have := this.from_le; omega, this.le, this.stop_le⟩
    · cases h
      exact liesFrom_find hk

/-- After a match that stopped at `start`, the next one stops further on: an empty match there does
not count. -/
theorem lt_stop_of_findNext {start : Nat} {m : Match}
    (h : a.findNext text start (some start) = some m) : start < m.stop := by
  unfold findNext at h
  split at h
  · cases h
  next k hk =>
    split at h
    · have hm := liesFrom_find h
      have := hm.from_le
      have := hm.le
      omega
    -- an empty match where the last one stopped has been excluded
    next hne =>
      cases h
      have hm := liesFrom_find hk
      have := hm.from_le
      have := hm.le
      simp only [Option.some.injEq] at hne
      omega

end Automaton

/-! ## One match after the other -/

/-- The matches that are reported from `start` on, the one before them having stopped at `last`. -/
inductive Reports (a : Automaton) (text : Array Char) : Nat → Option Nat → List Match → Prop
  | done {start : Nat} {last : Option Nat} :
      a.findNext text start last = none → Reports a text start last []
  | next {start : Nat} {last : Option Nat} {m : Match} {ms : List Match} :
      a.findNext text start last = some m → Reports a text m.stop (some m.stop) ms →
      Reports a text start last (m :: ms)

/-- Matches that lie in a text, each behind the one before it, and the first one from `pos` on. -/
def InOrder (text : Array Char) : Nat → List Match → Prop
  | _, [] => True
  | pos, m :: ms => m.LiesFrom text pos ∧ InOrder text m.stop ms

/-- A match among some in order lies in the text. -/
theorem InOrder.liesFrom {pos : Nat} {ms : List Match} (h : InOrder text pos ms) {m : Match}
    (hm : m ∈ ms) : m.LiesFrom text pos := by
  induction ms generalizing pos with
  | nil => cases hm
  | cons k ks ih =>
    rcases List.mem_cons.mp hm with rfl | hm
    · exact h.1
    · have hk := ih h.2 hm
      exact ⟨Nat.le_trans h.1.from_le (Nat.le_trans h.1.le hk.from_le), hk.le, hk.stop_le⟩

theorem Reports.inOrder {start : Nat} {last : Option Nat} {ms : List Match}
    (h : Reports a text start last ms) : InOrder text start ms := by
  induction h with
  | done => trivial
  | next hm _ ih => exact ⟨Automaton.liesFrom_findNext hm, ih⟩

namespace Automaton

theorem reports_matchesFrom {fuel start : Nat} (hs : start ≤ text.size)
    (hf : text.size < start + fuel) :
    Reports a text start (some start) (a.matchesFrom text fuel start (some start)) := by
  induction fuel generalizing start with
  | zero => omega
  | succ fuel ih =>
    rw [matchesFrom]
    split
    next h => exact .done h
    next m h =>
      have := lt_stop_of_findNext h
      exact .next h (ih (liesFrom_findNext h).stop_le (by omega))

/-- The fuel is enough: the matches are all that are reported from the start. -/
theorem reports_allMatches (a : Automaton) (text : Array Char) :
    Reports a text 0 none (a.allMatches text) := by
  rw [allMatches, matchesFrom]
  split
  next h => exact .done h
  next m h => exact .next h (reports_matchesFrom (liesFrom_findNext h).stop_le (by omega))

/-- All matches lie in the text, in order and without overlap. -/
theorem inOrder_allMatches (a : Automaton) (text : Array Char) :
    InOrder text 0 (a.allMatches text) := (reports_allMatches a text).inOrder

end Automaton
end Remap.Regex
