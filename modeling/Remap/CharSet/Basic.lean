/-!
# Sets of characters

A set is a list of ranges of code points, in increasing order, with a gap between each two.
`CharSet.ofRanges` brings any list of ranges into that form, and the operations build on it and on
the complement.

Main statement: `mem_normalise`, by which bringing ranges into form keeps their members.
-/

namespace Remap

/-- The code points from `lo` to `hi`, both included. -/
structure CodeRange where
  lo : Nat
  hi : Nat
  deriving DecidableEq, Repr

/-- A set of characters, as increasing ranges of code points. -/
structure CharSet where
  ranges : List CodeRange
  deriving DecidableEq, Repr

namespace CodeRange

def has (r : CodeRange) (n : Nat) : Bool := decide (r.lo ≤ n) && decide (n ≤ r.hi)

def anyHas (rs : List CodeRange) (n : Nat) : Bool := rs.any fun r => r.has n

/-- `r` with the ranges that follow it in increasing order, joined to the first of them where the
two overlap or touch. -/
def attach (r : CodeRange) : List CodeRange → List CodeRange
  | [] => [r]
  | s :: rs => if s.lo ≤ r.hi + 1 then attach ⟨r.lo, max r.hi s.hi⟩ rs else r :: s :: rs

/-- Joins ranges that overlap or touch, given in order of their lower ends. -/
def coalesce : List CodeRange → List CodeRange
  | [] => []
  | r :: rs => attach r (coalesce rs)

/-- Any ranges, brought into increasing order with gaps between them. -/
def normalise (rs : List CodeRange) : List CodeRange :=
  coalesce ((rs.filter fun r => decide (r.lo ≤ r.hi)).mergeSort fun a b => decide (a.lo ≤ b.lo))

/-! ### Members are kept -/

theorem anyHas_attach {r : CodeRange} {rs : List CodeRange} {n : Nat} (hr : r.lo ≤ r.hi)
    (h : ∀ s ∈ rs, r.lo ≤ s.lo ∧ s.lo ≤ s.hi) :
    anyHas (attach r rs) n = (r.has n || anyHas rs n) := by
  induction rs generalizing r with
  | nil => simp [attach, anyHas]
  | cons s rs ih =>
    have hs := h s (by simp)
    rw [attach]
    split
    -- the two ranges become one, which stands in front of the others as `r` did
    next hle =>
      have hmax : r.lo ≤ max r.hi s.hi := by omega
      rw [ih (r := ⟨r.lo, max r.hi s.hi⟩) hmax (fun t ht => h t (by simp [ht]))]
      simp only [anyHas, List.any_cons, has, ← Bool.or_assoc]
      congr 1
      rw [Bool.eq_iff_iff]
      simp only [Bool.and_eq_true, Bool.or_eq_true, decide_eq_true_eq]
      omega
    next => simp [anyHas]

theorem lo_of_mem_attach {r : CodeRange} {rs : List CodeRange} (hr : r.lo ≤ r.hi)
    (h : ∀ s ∈ rs, r.lo ≤ s.lo ∧ s.lo ≤ s.hi) :
    ∀ s ∈ attach r rs, r.lo ≤ s.lo ∧ s.lo ≤ s.hi := by
  induction rs generalizing r with
  | nil => simpa [attach] using hr
  | cons t rs ih =>
    have ht := h t (by simp)
    rw [attach]
    split
    · have hmax : r.lo ≤ max r.hi t.hi := by omega
      exact ih (r := ⟨r.lo, max r.hi t.hi⟩) hmax (fun u hu => h u (by simp [hu]))
    · intro s hs
      rcases List.mem_cons.1 hs with rfl | hs
      · exact ⟨Nat.le_refl _, hr⟩
      · exact h s hs

theorem coalesce_spec {rs : List CodeRange} (hp : rs.Pairwise fun a b => a.lo ≤ b.lo)
    (hv : ∀ r ∈ rs, r.lo ≤ r.hi) :
    (∀ n, anyHas (coalesce rs) n = anyHas rs n) ∧
      ∀ b : Nat, (∀ r ∈ rs, b ≤ r.lo) → ∀ s ∈ coalesce rs, b ≤ s.lo ∧ s.lo ≤ s.hi := by
  induction rs with
  | nil => simp [coalesce]
  | cons r rs ih =>
    rw [List.pairwise_cons] at hp
    obtain ⟨hm, hb⟩ := ih hp.2 fun s hs => hv s (by simp [hs])
    have hr := hv r (by simp)
    have hlo := hb r.lo hp.1
    refine ⟨fun n => ?_, fun b hbs s hs => ?_⟩
    · rw [coalesce, anyHas_attach hr hlo, hm]
      simp [anyHas]
    · have := lo_of_mem_attach hr hlo s hs
      have := hbs r (by simp)
      omega

/-- Bringing ranges into increasing order neither adds nor loses a code point. -/
theorem mem_normalise (rs : List CodeRange) (n : Nat) :
    anyHas (normalise rs) n = anyHas rs n := by
  have hp := @List.pairwise_mergeSort CodeRange (fun a b => decide (a.lo ≤ b.lo))
    (fun a b c h₁ h₂ => by simp only [decide_eq_true_eq] at *; omega)
    (fun a b => by simp only [Bool.or_eq_true, decide_eq_true_eq]; omega)
    (rs.filter fun r => decide (r.lo ≤ r.hi))
  -- joining neighbours keeps the numbers only because the ranges are sorted by where they begin
  rw [normalise, (coalesce_spec (by simpa using hp) ?_).1 n]
  -- the ranges that are left out have no number in them
  · have hq := List.mergeSort_perm (rs.filter fun r => decide (r.lo ≤ r.hi))
      fun a b : CodeRange => decide (a.lo ≤ b.lo)
    unfold anyHas
    rw [Bool.eq_iff_iff]
    simp only [List.any_eq_true, hq.mem_iff, List.mem_filter, decide_eq_true_eq, has,
      Bool.and_eq_true]
    constructor
    · rintro ⟨r, ⟨hr, _⟩, h⟩
      exact ⟨r, hr, h⟩
    · rintro ⟨r, hr, h⟩
      exact ⟨r, ⟨hr, by omega⟩, h⟩
  · intro r hr
    rw [List.mem_mergeSort] at hr
    simpa using (List.mem_filter.1 hr).2

end CodeRange

namespace CharSet

def lastCode : Nat := 0x10FFFF

/-- The set of the code points in some ranges. -/
def ofRanges (rs : List CodeRange) : CharSet := ⟨CodeRange.normalise rs⟩

/-- The set of the characters from `a` to `b`. -/
def range (a b : Nat) : CharSet := ofRanges [⟨a, b⟩]

def single (c : Char) : CharSet := ⟨[⟨c.toNat, c.toNat⟩]⟩

def empty : CharSet := ⟨[]⟩

def full : CharSet := ⟨[⟨0, lastCode⟩]⟩

/-- Whether a code point lies in one of the ranges, which are in increasing order. -/
def hasCode : List CodeRange → Nat → Bool
  | [], _ => false
  | r :: rs, n => if n < r.lo then false else decide (n ≤ r.hi) || hasCode rs n

def contains (s : CharSet) (c : Char) : Bool := hasCode s.ranges c.toNat

def union (s t : CharSet) : CharSet := ofRanges (s.ranges ++ t.ranges)

def unions (ss : List CharSet) : CharSet := ofRanges (ss.flatMap CharSet.ranges)

/-- The gaps between increasing ranges, from the code point `n` on. -/
def gapsFrom (n : Nat) : List CodeRange → List CodeRange
  | [] => if n ≤ lastCode then [⟨n, lastCode⟩] else []
  | r :: rs => if n < r.lo then ⟨n, r.lo - 1⟩ :: gapsFrom (r.hi + 1) rs else gapsFrom (r.hi + 1) rs

/-- All characters that are not members. -/
def complement (s : CharSet) : CharSet := ⟨gapsFrom 0 s.ranges⟩

def inter (s t : CharSet) : CharSet := (s.complement.union t.complement).complement

/-- The members of `s` that are not in `t`. -/
def diff (s t : CharSet) : CharSet := s.inter t.complement

def symmDiff (s t : CharSet) : CharSet := (s.union t).diff (s.inter t)

/-- Whether no member lies beyond ASCII. -/
def isAscii (s : CharSet) : Bool := s.ranges.all fun r => decide (r.hi ≤ 0x7F)

/-- The only member, of a set that has one. -/
def only? (s : CharSet) : Option Char :=
  match s.ranges with
  | [r] => if r.lo = r.hi then some (Char.ofNat r.lo) else none
  | _ => none

end CharSet
end Remap
