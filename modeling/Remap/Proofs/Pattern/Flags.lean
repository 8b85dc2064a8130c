import Remap.Pattern.Basic
/-!
# Flag letters

The flags that are read from letters are those whose letters occur, each of them once, and writing
the letters of flags and reading them gives the flags back. So a pattern is compiled again from its
source and the letters of its flags.

Main statements: `toNat_has_of_readFrom`, `has_of_ofText?`, `ofText?_toText` and
`Pattern.compile_toText`.
-/

namespace Remap

namespace Flag

theorem letter_inj {f g : Flag} (h : f.letter = g.letter) : f = g := by
  have := ofLetter?_letter f
  rw [h, ofLetter?_letter g] at this
  exact (Option.some.inj this).symm

theorem mem_all (f : Flag) : f ∈ all := by cases f <;> decide

/-- The letters of the flags, in the order in which they are written. -/
def letters : List Char := ['g', 'i', 'm', 's', 'u', 'y']

theorem map_letter_all : all.map letter = letters := rfl

theorem letter_mem (f : Flag) : f.letter ∈ letters := List.mem_map_of_mem f.mem_all

theorem exists_of_mem_letters {c : Char} (h : c ∈ letters) : ∃ f : Flag, f.letter = c := by
  rw [← map_letter_all] at h
  obtain ⟨f, -, hf⟩ := List.mem_map.mp h
  exact ⟨f, hf⟩

/-- The characters that are read as flags are the letters of flags. -/
theorem isSome_ofLetter?_iff {c : Char} : (ofLetter? c).isSome = true ↔ c ∈ letters := by
  constructor
  · intro h
    obtain ⟨f, hf⟩ := Option.isSome_iff_exists.mp h
    rw [← letter_of_ofLetter? hf]
    exact f.letter_mem
  · intro h
    obtain ⟨f, rfl⟩ := exists_of_mem_letters h
    rw [ofLetter?_letter]
    rfl

theorem letter_ne_of_ofLetter?_eq_none {c : Char} (h : ofLetter? c = none) (f : Flag) :
    c ≠ f.letter := by
  rintro rfl
  rw [ofLetter?_letter] at h
  cases h

end Flag

namespace Flags

@[simp] theorem has_default (f : Flag) : ({} : Flags).has f = false := by cases f <;> rfl

/-- A letter is read once if its flag was not set before, and else not at all. -/
theorem toNat_has_of_readFrom {fs gs : Flags} {cs : List Char} (h : readFrom fs cs = .ok gs)
    (f : Flag) : (gs.has f).toNat = (fs.has f).toNat + cs.count f.letter := by
  induction cs generalizing fs with
  | nil =>
    cases h
    rfl
  | cons c cs ih =>
    rw [readFrom] at h
    split at h
    next hc =>
      rw [ih h, List.count_cons_of_ne (Flag.letter_ne_of_ofLetter?_eq_none hc f)]
    next g hg =>
      obtain rfl := Flag.letter_of_ofLetter? hg
      split at h
      · cases h
      next hset =>
        rw [ih h, has_insert]
        -- the letter is that of `f`, and `f` was not set before, or of another flag
        by_cases hgf : g = f
        · subst hgf
          rw [List.count_cons_self, Bool.eq_false_iff.mpr hset]
          simp [Nat.add_comm]
        · rw [List.count_cons_of_ne (mt Flag.letter_inj hgf), decide_eq_false hgf, Bool.false_or]

/-- A flag is set if its letter has been read. -/
theorem has_of_ofText? {fs : Flags} {cs : List Char} (h : ofText? cs = .ok fs) (f : Flag) :
    fs.has f = cs.contains f.letter := by
  have hcount := toNat_has_of_readFrom h f
  rw [has_default, Bool.toNat_false, Nat.zero_add] at hcount
  have hle := Bool.toNat_le (fs.has f)
  rw [Bool.eq_iff_iff, List.contains_iff_mem, ← List.count_pos_iff, ← Bool.toNat_eq_one]
  omega

/-- Letters that differ from each other can be read, if none of their flags is set already. -/
theorem exists_readFrom {fs : Flags} {cs : List Char} (hn : cs.Nodup)
    (hs : ∀ f : Flag, f.letter ∈ cs → fs.has f = false) : ∃ gs, readFrom fs cs = .ok gs := by
  induction cs generalizing fs with
  | nil => exact ⟨fs, rfl⟩
  | cons c cs ih =>
    rw [List.nodup_cons] at hn
    rw [readFrom]
    split
    next => exact ih hn.2 fun f hf => hs f (List.mem_cons_of_mem c hf)
    next g hg =>
      obtain rfl := Flag.letter_of_ofLetter? hg
      -- reading stops only at a flag that is set, and no letter comes twice
      have hset : ¬ fs.has g = true := by simp [hs g List.mem_cons_self]
      rw [if_neg hset]
      refine ih hn.2 fun f hf => ?_
      have hne : g ≠ f := by
        rintro rfl
        exact hn.1 hf
      rw [has_insert, hs f (List.mem_cons_of_mem _ hf), decide_eq_false hne, Bool.or_false]

theorem exists_ofText? {cs : List Char} (h : cs.Nodup) : ∃ fs, ofText? cs = .ok fs :=
  exists_readFrom h fun f _ => has_default f

/-- Reading the letters of flags gives the flags back. -/
theorem ofText?_toText (fs : Flags) : ofText? fs.toText = .ok fs := by
  have hletters : Flag.letters.Nodup := by decide
  have hsub : fs.toText.Sublist Flag.letters := List.filter_sublist.map Flag.letter
  obtain ⟨gs, h⟩ := exists_ofText? (hletters.sublist hsub)
  have hgs : gs = fs := by
    refine ext_has fun f => ?_
    rw [has_of_ofText? h, Bool.eq_iff_iff, List.contains_iff_mem]
    constructor
    · intro hm
      obtain ⟨g, hg, hl⟩ := List.mem_map.mp hm
      rw [← Flag.letter_inj hl]
      exact (List.mem_filter.mp hg).2
    · intro hf
      exact List.mem_map.mpr ⟨f, List.mem_filter.mpr ⟨f.mem_all, hf⟩, rfl⟩
  rw [hgs] at h
  exact h

end Flags

/-! ## Patterns -/

namespace Pattern

/-- What a pattern is made of: its flags are those whose letters were given, and its expression
starts with them. -/
theorem of_compile {source letters : List Char} {p : Pattern}
    (h : compile source letters = .ok p) :
    p.source = source ∧ Flags.ofText? letters = .ok p.flags ∧
      Regex.compile p.flags.mode source = .ok p.regex := by
  unfold compile at h
  split at h
  · cases h
  next flags hflags =>
    split at h
    · cases h
    next regex hregex =>
      cases h
      exact ⟨rfl, hflags, hregex⟩

theorem compile_eq_ok_iff {source letters : List Char} {p : Pattern} :
    compile source letters = .ok p ↔ p.source = source ∧ Flags.ofText? letters = .ok p.flags ∧
      Regex.compile p.flags.mode source = .ok p.regex := by
  refine ⟨of_compile, ?_⟩
  rintro ⟨rfl, hflags, hregex⟩
  rw [compile, hflags]
  dsimp only
  rw [hregex]

/-- Compiling depends on the flags that are set, not on how their letters were written. -/
theorem compile_toText {source letters : List Char} {p : Pattern}
    (h : compile source letters = .ok p) : compile p.source p.flags.toText = .ok p := by
  obtain ⟨rfl, -, hregex⟩ := of_compile h
  exact compile_eq_ok_iff.mpr ⟨rfl, Flags.ofText?_toText p.flags, hregex⟩

end Pattern
end Remap
