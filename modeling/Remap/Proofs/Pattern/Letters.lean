import Mathlib
import Remap.Proofs.Pattern.Flags
/-!
# Flag letters as a set

Flag letters are refused exactly if one of them comes twice, and the one that is reported is the
first that has been there before. Otherwise only the set of the letters counts, and `u` does not
count for what a pattern does: with its flag letters in another order, with or without `u`, a source
gives a pattern that does the same, or none.

Main statements: `Flags.firstRepeat_of_ofText?`, `Flags.exists_error_iff`,
`Flags.toText_of_ofText?`, `Pattern.exists_compile_of_letters` and `Pattern.compile_letters`.
-/

namespace Remap

namespace Flags

variable {raw : List Char} {c : Char} {fs gs : Flags}

/-! ## Letters that come twice -/

/-- The flag letter `c` has been there before, which holds of no flag letter further left. -/
inductive FirstRepeat : List Char → Char → Prop
  | intro {front back : List Char} {c : Char} : c ∈ Flag.letters → c ∈ front →
      (∀ d ∈ Flag.letters, front.count d ≤ 1) → FirstRepeat (front ++ c :: back) c

theorem FirstRepeat.two_le_count (h : FirstRepeat raw c) : c ∈ Flag.letters ∧ 2 ≤ raw.count c := by
  cases h with
  | intro hletter hfront _ =>
    refine ⟨hletter, ?_⟩
    have hpos := List.count_pos_iff.mpr hfront
    rw [List.count_append, List.count_cons_self]
    omega

/-- No flag letter comes twice if all are read. -/
theorem count_le_one_of_ofText? (h : ofText? raw = .ok fs) (hc : c ∈ Flag.letters) :
    raw.count c ≤ 1 := by
  obtain ⟨f, rfl⟩ := Flag.exists_of_mem_letters hc
  have hcount := toNat_has_of_readFrom h f
  have hle := Bool.toNat_le (fs.has f)
  omega

/-- Letters are read up to one whose flag is set by then. -/
theorem exists_of_readFrom_eq_error {cs : List Char} (h : readFrom fs cs = .error c) :
    ∃ front back gs f, f.letter = c ∧ cs = front ++ c :: back ∧ readFrom fs front = .ok gs ∧
      gs.has f = true := by
  -- each letter that is read or passed over joins the front
  induction cs generalizing fs with
  | nil => cases h
  | cons d cs ih =>
    rw [readFrom] at h
    split at h
    next hd =>
      obtain ⟨front, back, gs, f, hf, rfl, hread, hset⟩ := ih h
      refine ⟨d :: front, back, gs, f, hf, rfl, ?_, hset⟩
      rw [readFrom, hd]
      exact hread
    next g hd =>
      split at h
      next hset =>
        cases h
        exact ⟨[], cs, fs, g, Flag.letter_of_ofLetter? hd, rfl, rfl, hset⟩
      next hnot =>
        obtain ⟨front, back, gs, f, hf, rfl, hread, hset⟩ := ih h
        refine ⟨d :: front, back, gs, f, hf, rfl, ?_, hset⟩
        rw [readFrom, hd]
        dsimp only
        rw [if_neg hnot]
        exact hread

/-- The letter that is reported is the first that comes again. -/
theorem firstRepeat_of_ofText? (h : ofText? raw = .error c) : FirstRepeat raw c := by
  obtain ⟨front, back, gs, f, rfl, rfl, hread, hset⟩ := exists_of_readFrom_eq_error h
  refine .intro f.letter_mem ?_ fun d hd => count_le_one_of_ofText? hread hd
  rw [← List.contains_iff_mem, ← has_of_ofText? hread]
  exact hset

theorem exists_error_iff :
    (∃ c, ofText? raw = .error c) ↔ ∃ c ∈ Flag.letters, 2 ≤ raw.count c := by
  constructor
  · rintro ⟨c, h⟩
    exact ⟨c, (firstRepeat_of_ofText? h).two_le_count⟩
  · rintro ⟨c, hc, htwo⟩
    cases h : ofText? raw with
    | error d => exact ⟨d, rfl⟩
    | ok fs =>
      have hone := count_le_one_of_ofText? h hc
      omega

/-! ## The set of the letters -/

/-- The letters that were read are written in the order of the flags. -/
theorem toText_of_ofText? (h : ofText? raw = .ok fs) :
    fs.toText = Flag.letters.filter (raw.contains ·) := by
  have hhas : fs.has = (raw.contains ·) ∘ Flag.letter := funext (has_of_ofText? h)
  rw [toText, ← Flag.map_letter_all, List.filter_map, hhas]

/-- Flags that differ in `u` at most. -/
def Alike (fs gs : Flags) : Prop := ∀ f, f ≠ .unicode → fs.has f = gs.has f

theorem alike_of_ofText? {a b : List Char} (ha : ofText? a = .ok fs) (hb : ofText? b = .ok gs)
    (h : ∀ f : Flag, f ≠ .unicode → (f.letter ∈ a ↔ f.letter ∈ b)) : fs.Alike gs := by
  intro f hf
  rw [has_of_ofText? ha, has_of_ofText? hb, Bool.eq_iff_iff, List.contains_iff_mem,
    List.contains_iff_mem]
  exact h f hf

/-- The expression of a pattern does not depend on `u`. -/
theorem Alike.mode_eq (h : fs.Alike gs) : fs.mode = gs.mode := by
  have hi : fs.ignoreCase = gs.ignoreCase := h .ignoreCase nofun
  have hm : fs.multiLine = gs.multiLine := h .multiLine nofun
  have hs : fs.dotAll = gs.dotAll := h .dotAll nofun
  rw [mode, mode, hi, hm, hs]

/-- Nor does it depend on `u` which matches are replaced. -/
theorem Alike.usedMatches_eq (h : fs.Alike gs) (found : List Regex.Match) :
    Regex.usedMatches fs found = Regex.usedMatches gs found := by
  have hg : fs.everywhere = gs.everywhere := h .everywhere nofun
  have hy : fs.sticky = gs.sticky := h .sticky nofun
  rw [Regex.usedMatches, Regex.usedMatches, hg, hy]

end Flags

/-! ## Patterns -/

namespace Pattern

/-- A source that can be compiled can be so with the same letters in another order, with or without
`u`, and gives a pattern that does the same. -/
theorem exists_compile_of_letters {source a b : List Char} {p : Pattern}
    (hp : compile source a = .ok p) (hb : b.Nodup)
    (h : ∀ f : Flag, f ≠ .unicode → (f.letter ∈ a ↔ f.letter ∈ b)) :
    ∃ q, compile source b = .ok q ∧
      ∀ text template, p.replace text template = q.replace text template := by
  obtain ⟨hsource, hflags, hregex⟩ := of_compile hp
  obtain ⟨gs, hgs⟩ := Flags.exists_ofText? hb
  have halike := Flags.alike_of_ofText? hflags hgs h
  rw [halike.mode_eq] at hregex
  refine ⟨{ p with flags := gs }, compile_eq_ok_iff.mpr ⟨hsource, hgs, hregex⟩, ?_⟩
  intro text template
  rw [replace, found, halike.usedMatches_eq]
  rfl

/-- Letters are refused if one of them comes twice, and otherwise count as a set; other characters
among them do not count. For what a pattern does, `u` does not count either. -/
theorem compile_letters :
    (∀ raw,
      ((∃ c, Flags.ofText? raw = .error c) ↔ ∃ c ∈ Flag.letters, 2 ≤ raw.count c) ∧
      (∀ c, Flags.ofText? raw = .error c → Flags.FirstRepeat raw c ∧
        ∀ source, compile source raw = .error (.duplicateFlag raw c)) ∧
      ∀ fs, Flags.ofText? raw = .ok fs → (∀ f, fs.has f = true ↔ f.letter ∈ raw) ∧
        fs.toText = Flag.letters.filter (raw.contains ·)) ∧
    ∀ source a b, a.Nodup → b.Nodup →
      (∀ f : Flag, f ≠ .unicode → (f.letter ∈ a ↔ f.letter ∈ b)) →
      ((∃ p, compile source a = .ok p) ↔ ∃ q, compile source b = .ok q) ∧
      ∀ p q, compile source a = .ok p → compile source b = .ok q →
        ∀ text template, p.replace text template = q.replace text template := by
  constructor
  · refine fun raw => ⟨Flags.exists_error_iff, ?_, ?_⟩
    · intro c h
      refine ⟨Flags.firstRepeat_of_ofText? h, fun source => ?_⟩
      rw [compile, h]
    · intro fs h
      refine ⟨fun f => ?_, Flags.toText_of_ofText? h⟩
      rw [Flags.has_of_ofText? h, List.contains_iff_mem]
  · intro source a b ha hb h
    refine ⟨⟨?_, ?_⟩, ?_⟩
    · rintro ⟨p, hp⟩
      obtain ⟨q, hq, -⟩ := exists_compile_of_letters hp hb h
      exact ⟨q, hq⟩
    · rintro ⟨q, hq⟩
      obtain ⟨p, hp, -⟩ := exists_compile_of_letters hq ha fun f hf => (h f hf).symm
      exact ⟨p, hp⟩
    -- the pattern with the other letters is unique, so it is `q`
    · intro p q hp hq
      obtain ⟨q', hq', hreplace⟩ := exists_compile_of_letters hp hb h
      rw [hq] at hq'
      cases hq'
      exact hreplace

/-- A letter that is no flag comes twice before the one that is reported, and `u` stands among the
letters of one pattern only. -/
theorem compile_letters_unicode :
    compile ['a'] "sxmxms".toList = .error (.duplicateFlag "sxmxms".toList 'm') ∧
      ∃ p q, compile "^.(b)".toList "msg".toList = .ok p ∧
        compile "^.(b)".toList "gsum".toList = .ok q ∧ p.flags.toText = "gms".toList ∧
        p.replace "ab\n\nbb".toList "<$1>".toList = q.replace "ab\n\nbb".toList "<$1>".toList ∧
        q.replace "ab\n\nbb".toList "<$1>".toList = "<b>\n<b>b".toList := by
  obtain ⟨hread, halike⟩ := compile_letters
  have hm : Flags.ofText? "sxmxms".toList = .error 'm' := rfl
  have hletters : ∀ f : Flag, f ≠ .unicode →
      (f.letter ∈ "msg".toList ↔ f.letter ∈ "gsum".toList) := by
    intro f hf
    cases f with
    | unicode => exact absurd rfl hf
    | _ => decide
  obtain ⟨p, hp, htext⟩ : ∃ p, compile "^.(b)".toList "msg".toList = .ok p ∧
      p.flags.toText = "gms".toList := ⟨_, rfl, rfl⟩
  obtain ⟨q, hq, hreplace⟩ : ∃ q, compile "^.(b)".toList "gsum".toList = .ok q ∧
      q.replace "ab\n\nbb".toList "<$1>".toList = "<b>\n<b>b".toList := ⟨_, rfl, by cbv⟩
  obtain ⟨-, hsame⟩ := halike "^.(b)".toList _ _ (by decide) (by decide) hletters
  exact ⟨((hread _).2.1 _ hm).2 _, p, q, hp, hq, htext, hsame p q hp hq _ _, hreplace⟩

end Pattern
end Remap
