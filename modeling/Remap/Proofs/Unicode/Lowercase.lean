import Mathlib
import Remap.Proofs.CharSet.Members
import Remap.Unicode.Lowercase
/-!
# Small letters inside a longer text

Every character has its small form wherever it stands, except for the capital sigma, whose small
form depends on what stands around it. A part of a text is in small letters what it is on its own,
if its capital sigmas are read in the text as they are on their own: `lowercase_infix`.

A word of letters that have one capital each is the small form of its own spellings only, and a
slash behind a text stays one: `lowercase_slash`.

Main statements: `lowercase_infix` and `lowercase_eq_iff`. The capital alpha is a letter with cases
that no sigma looks past: `meetsCased_alpha`.
-/

namespace Remap.Unicode

variable {before term after own back : List Char}

/-- Whether a capital sigma between two texts is a final one; of the text before it the nearest
character comes first. -/
def endsWord (back after : List Char) : Bool := meetsCased back && !meetsCased after

/-- The capital sigmas of a term end a word between two texts exactly where they do when the term
stands alone. A term without capital sigmas keeps them all. -/
def KeepsSigmas (before term after : List Char) : Prop :=
  ∀ u v, term = u ++ 'Σ' :: v →
    endsWord (u.reverse ++ before.reverse) (v ++ after) = endsWord u.reverse v

theorem lowerFrom_append (back a b : List Char) :
    ∃ front, lowerFrom back (a ++ b) = front ++ lowerFrom (a.reverse ++ back) b := by
  induction a generalizing back with
  | nil => exact ⟨[], rfl⟩
  | cons c cs ih =>
    obtain ⟨front, h⟩ := ih (c :: back)
    rw [List.cons_append, lowerFrom, h, List.reverse_cons, List.append_assoc, ← List.append_assoc]
    exact ⟨_, rfl⟩

/-- The small letters of what is left of a term, whose own characters so far are `own`. -/
theorem lowerFrom_within (h : ∀ u v, term = u ++ 'Σ' :: v →
      endsWord (u.reverse ++ (own ++ back)) (v ++ after) = endsWord (u.reverse ++ own) v) :
    lowerFrom (own ++ back) (term ++ after) =
      lowerFrom own term ++ lowerFrom (term.reverse ++ (own ++ back)) after := by
  induction term generalizing own with
  | nil => rfl
  | cons c cs ih =>
    have hrest : ∀ u v, cs = u ++ 'Σ' :: v →
        endsWord (u.reverse ++ (c :: own ++ back)) (v ++ after) =
          endsWord (u.reverse ++ c :: own) v := by
      rintro u v rfl
      simpa using h (c :: u) v rfl
    have hcs : lowerFrom (c :: (own ++ back)) (cs ++ after) = _ := ih hrest
    have hback : cs.reverse ++ (c :: own ++ back) = (c :: cs).reverse ++ (own ++ back) := by simp
    -- only a sigma looks at the text around it
    by_cases hc : c = 'Σ'
    · subst hc
      have hends : (meetsCased (own ++ back) && !meetsCased (cs ++ after)) =
          (meetsCased own && !meetsCased cs) := h [] cs rfl
      rw [List.cons_append, lowerFrom, lowerFrom, hcs, hback, hends, List.append_assoc]
    · rw [List.cons_append, lowerFrom, lowerFrom, hcs, hback, if_neg hc, if_neg hc,
        List.append_assoc]

/-- A term that keeps its sigmas is in small letters a part of the text in small letters. -/
theorem lowercase_infix (h : KeepsSigmas before term after) :
    lowercase term <:+: lowercase (before ++ term ++ after) := by
  obtain ⟨front, hfront⟩ := lowerFrom_append [] before (term ++ after)
  have hterm : lowerFrom before.reverse (term ++ after) = lowerFrom [] term ++ _ :=
    @lowerFrom_within term after [] before.reverse fun u v hu => by
      rw [List.nil_append, List.append_nil]
      exact h u v hu
  rw [List.append_nil, hterm] at hfront
  refine ⟨front, lowerFrom (term.reverse ++ ([] ++ before.reverse)) after, ?_⟩
  rw [lowercase, lowercase, List.append_assoc before, hfront, List.append_assoc]

/-! ## A letter with cases -/

open CodeRange CharSet

/-- The ranges of a table can be read character by character. -/
theorem anyHas_ofTable (table : List Char) (n : Nat) :
    anyHas (ofTable (String.ofList table)).ranges n = anyHas (readRanges none none table) n := by
  rw [ofTable, String.toList_ofList]

set_option maxRecDepth 20000 in
theorem not_caseIgnorable_alpha : caseIgnorable.contains 'Α' = false := by
  have hsets : ∀ c ∈ [Category.nonspacingMark, .enclosingMark, .format, .modifierLetter,
      .modifierSymbol], anyHas (Category.set c).ranges 0x391 = false := by
    intro c hc
    simp only [List.mem_cons, List.not_mem_nil, or_false] at hc
    rcases hc with rfl | rfl | rfl | rfl | rfl
    all_goals exact (anyHas_ofTable _ _).trans (by decide +kernel)
  have hunion : anyHas (Category.union [.nonspacingMark, .enclosingMark, .format, .modifierLetter,
      .modifierSymbol]).ranges 0x391 = false := by
    rw [Category.union, anyHas_unions, List.any_map, List.any_eq_false]
    intro c hc
    rw [Function.comp_apply, hsets c hc]
    exact Bool.false_ne_true
  refine (contains_union _ _ 'Α').trans (Bool.or_eq_false_iff.mpr ⟨hunion, ?_⟩)
  exact (anyHas_ofTable _ _).trans (by decide +kernel)

set_option maxRecDepth 20000 in
theorem cased_alpha : cased.contains 'Α' = true := by
  have hcategory : anyHas (Category.set .uppercaseLetter).ranges 0x391 = true :=
    (anyHas_ofTable _ _).trans (by decide +kernel)
  have hupper : anyHas Binary.uppercaseSet.ranges 0x391 = true :=
    (anyHas_union _ _ _).trans (by rw [hcategory, Bool.true_or])
  exact (contains_unions _ 'Α').trans
    (List.any_eq_true.mpr ⟨Binary.uppercaseSet, by simp, hupper⟩)

/-- The text before or after a sigma that begins with an alpha makes it part of a word. -/
theorem meetsCased_alpha (cs : List Char) : meetsCased ('Α' :: cs) = true := by
  rw [meetsCased, List.dropWhile_cons_of_neg (by rw [not_caseIgnorable_alpha]; simp)]
  exact cased_alpha

/-! ## Letters without other capitals

A dotted capital I and the sign of the unit kelvin have small forms that begin with `i` and `k`. No
other character outside ASCII has a small form that begins in ASCII, so that the letters behind `k`
are the small forms of two characters each. -/

theorem lowerShifted_apart : ∀ e ∈ lowerShifted,
    e.2.1 < 0x80 ∨ 0x80 ≤ e.1 + e.2.2 ∨ (e.1 = e.2.1 ∧ e.1 + e.2.2 = 'k'.toNat) := by
  decide +kernel

/-- The small form of a character outside ASCII. -/
theorem lowerWide_cases {c : Char} (hc : 0x80 ≤ c.toNat) :
    lowerWide c = ['i', Char.ofNat 0x307] ∨
      ∃ n, lowerWide c = [Char.ofNat n] ∧ (n = 'k'.toNat ∨ 0x80 ≤ n) := by
  rw [lowerWide]
  split
  · exact .inl rfl
  right
  split
  -- a shifted letter may end up in ASCII: the Kelvin sign does, as `k`
  next lo hi d he =>
    have hapart := lowerShifted_apart _ (List.mem_of_find?_eq_some he)
    have hrange := List.find?_some he
    simp only [Bool.and_eq_true, decide_eq_true_eq] at hapart hrange
    exact ⟨_, rfl, by omega⟩
  next =>
    have hsame : [c] = [Char.ofNat c.toNat] := by rw [Char.ofNat_toNat]
    split
    · split
      · exact ⟨_, rfl, by omega⟩
      · exact ⟨_, hsame, .inr hc⟩
    · exact ⟨_, hsame, .inr hc⟩

theorem toNat_ofNat_cases (n : Nat) : (Char.ofNat n).toNat = n ∨ (Char.ofNat n).toNat = 0 := by
  unfold Char.ofNat
  split
  · exact .inl rfl
  · exact .inr rfl

/-- The small form of a character outside ASCII begins outside of it too, or not behind `k`. -/
theorem exists_lowerWide {c : Char} (hc : 0x80 ≤ c.toNat) :
    ∃ d ds, lowerWide c = d :: ds ∧ (d.toNat ≤ 'k'.toNat ∨ 0x80 ≤ d.toNat) := by
  rcases lowerWide_cases hc with h | ⟨n, h, hn⟩
  · exact ⟨_, _, h, .inl (by decide)⟩
  · refine ⟨_, _, h, ?_⟩
    rcases toNat_ofNat_cases n with hd | hd
    all_goals
      rw [hd]
      omega

theorem toLower_of_wide {c : Char} (hc : 0x80 ≤ c.toNat) : c.toLower = c := by
  rw [Char.toLower, dif_neg]
  rintro ⟨-, h⟩
  have : c.toNat ≤ 'Z'.toNat := UInt32.le_iff_toNat_le.mp h
  have : 'Z'.toNat < 0x80 := by decide
  omega

/-- A text begins in small letters with a letter behind `k` if its first character is that letter,
small or capital. -/
theorem lowerFrom_cons_eq_cons_iff {c d : Char} {cs w : List Char} (hk : 'k'.toNat < d.toNat)
    (hd : d.toNat < 0x80) :
    lowerFrom back (c :: cs) = d :: w ↔ c.toLower = d ∧ lowerFrom (c :: back) cs = w := by
  rw [lowerFrom]
  by_cases hs : c = 'Σ'
  · subst hs
    have hne : ∀ x : Char, 0x80 ≤ x.toNat → x ≠ d := by
      rintro x hx rfl
      omega
    rw [if_pos rfl, toLower_of_wide (by decide)]
    refine iff_of_false (fun h => ?_) fun h => hne 'Σ' (by decide) h.1
    refine hne _ ?_ (List.cons.inj h).1
    split <;> decide
  · rw [if_neg hs, lowerChar]
    split
    next => simp
    -- a character outside ASCII becomes none of the letters after `k`
    next hwide =>
      have hc : 0x80 ≤ c.toNat := Nat.le_of_not_lt hwide
      obtain ⟨x, xs, hx, hrange⟩ := exists_lowerWide hc
      rw [hx, toLower_of_wide hc]
      refine iff_of_false (fun h => ?_) fun h => ?_
      · have := (List.cons.inj h).1
        subst this
        omega
      · have := h.1
        subst this
        omega

theorem lowerFrom_ne_nil (c : Char) (cs : List Char) : lowerFrom back (c :: cs) ≠ [] := by
  rw [lowerFrom]
  apply List.append_ne_nil_of_left_ne_nil
  split
  · exact List.cons_ne_nil _ _
  · rw [lowerChar]
    split
    · exact List.cons_ne_nil _ _
    next hwide =>
      obtain ⟨x, xs, hx, -⟩ := exists_lowerWide (Nat.le_of_not_lt hwide)
      rw [hx]
      exact List.cons_ne_nil x xs

/-- A word of letters behind `k` is what a text is in small letters exactly if it is the text letter
by letter, each small or capital. -/
theorem lowercase_eq_iff {cs w : List Char} (hw : ∀ d ∈ w, 'k'.toNat < d.toNat ∧ d.toNat < 0x80) :
    lowercase cs = w ↔ cs.map Char.toLower = w := by
  rw [lowercase]
  generalize [] = back
  induction cs generalizing back w with
  | nil => cases w <;> simp [lowerFrom]
  | cons c cs ih =>
    cases w with
    | nil => simp [lowerFrom_ne_nil]
    | cons d w =>
      obtain ⟨hk, hd⟩ := hw d List.mem_cons_self
      rw [lowerFrom_cons_eq_cons_iff hk hd, ih fun x hx => hw x (List.mem_cons_of_mem d hx)]
      simp

/-! ## Slashes

A slash is no letter, so that a sigma in front of it ends a word as it does at the end of a text. -/

set_option maxRecDepth 20000 in
theorem not_cased_slash : cased.contains '/' = false := by
  have hcategory : ∀ c ∈ [Category.lowercaseLetter, .uppercaseLetter, .titlecaseLetter],
      anyHas (Category.set c).ranges 0x2F = false := by
    intro c hc
    simp only [List.mem_cons, List.not_mem_nil, or_false] at hc
    rcases hc with rfl | rfl | rfl
    all_goals exact (anyHas_ofTable _ _).trans (by decide +kernel)
  have hlower : anyHas Binary.lowercaseSet.ranges 0x2F = false := by
    refine (anyHas_union _ _ _).trans (Bool.or_eq_false_iff.mpr ⟨hcategory _ (by simp), ?_⟩)
    exact (anyHas_ofTable _ _).trans (by decide +kernel)
  have hupper : anyHas Binary.uppercaseSet.ranges 0x2F = false := by
    refine (anyHas_union _ _ _).trans (Bool.or_eq_false_iff.mpr ⟨hcategory _ (by simp), ?_⟩)
    exact (anyHas_ofTable _ _).trans (by decide +kernel)
  refine (contains_unions _ '/').trans (List.any_eq_false.mpr fun s hs => ?_)
  simp only [List.mem_cons, List.not_mem_nil, or_false] at hs
  rcases hs with rfl | rfl | rfl
  · exact Bool.eq_false_iff.mp hlower
  · exact Bool.eq_false_iff.mp hupper
  · exact Bool.eq_false_iff.mp (hcategory _ (by simp))

theorem meetsCased_slash (cs : List Char) : meetsCased (cs ++ ['/']) = meetsCased cs := by
  rw [meetsCased, meetsCased, List.dropWhile_append]
  cases cs.dropWhile caseIgnorable.contains with
  | nil =>
    cases hi : caseIgnorable.contains '/' with
    | true => simp [hi]
    | false => simpa [hi] using not_cased_slash
  | cons c cs => rfl

/-- A slash behind a text is kept, and changes no small letter before it. -/
theorem lowercase_slash (cs : List Char) : lowercase (cs ++ ['/']) = lowercase cs ++ ['/'] :=
  @lowerFrom_within cs ['/'] [] [] fun u v _ => by
    rw [endsWord, endsWord, meetsCased_slash, List.append_nil, List.append_nil]

theorem slash_of_toLower : ∀ n < 0x80, (Char.ofNat n).toLower = '/' → Char.ofNat n = '/' := by
  decide

/-- No other character has a small form with a slash in it. -/
theorem slash_not_mem_lowerChar {c : Char} (hc : c ≠ '/') : '/' ∉ lowerChar c := by
  rw [lowerChar]
  split
  next hascii =>
    intro hmem
    have hlower := slash_of_toLower c.toNat hascii
    rw [Char.ofNat_toNat] at hlower
    exact hc (hlower (List.mem_singleton.mp hmem).symm)
  next hwide =>
    rcases lowerWide_cases (Nat.le_of_not_lt hwide) with h | ⟨n, h, hn⟩
    · rw [h]
      decide
    · rw [h, List.mem_singleton]
      intro hslash
      have hcode : '/'.toNat = n ∨ '/'.toNat = 0 := hslash ▸ toNat_ofNat_cases n
      have hk : 'k'.toNat = 0x6B ∧ '/'.toNat = 0x2F := ⟨rfl, rfl⟩
      omega

theorem slash_not_mem_lowercase {cs : List Char} (h : '/' ∉ cs) : '/' ∉ lowercase cs := by
  rw [lowercase]
  generalize [] = back
  induction cs generalizing back with
  | nil => exact List.not_mem_nil
  | cons c cs ih =>
    rw [List.mem_cons, not_or] at h
    rw [lowerFrom, List.mem_append, not_or]
    refine ⟨?_, ih h.2 _⟩
    split
    · split <;> decide
    · exact slash_not_mem_lowerChar (Ne.symm h.1)

end Remap.Unicode
