import Remap.Proofs.Files.Rewriting
/-!
# What saving leaves as it was

Saving a text changes one file, and may add directories above it. When it fails, it may have added
directories, but no file is new or different.

Main statement: `save_keeps`, for both ends of saving.
-/

namespace Remap.FileTree

variable {t t' : FileTree} {current l : Location} {target p : Path} {text : List Char}

/-- A path that leads to what is new in a tree that has grown did not lead anywhere before. -/
theorem leadsSomewhere_of_new (g : t.Grows t') (hl : t.at? l = none)
    (h : t'.find current p = .ok l) : t.leadsSomewhere current p = false := by
  unfold leadsSomewhere
  cases hf : t.find current p with
  | error e => rfl
  | ok k =>
    have hk : k = l := Except.ok.inj ((find_grows g hf).symm.trans h)
    obtain ⟨node, hn, -⟩ := solid_of_find hf
    rw [hk, hl] at hn
    cases hn

/-- What is kept for the path `target`, at all locations but those in `changed`: every entry is
there as it was, every path that led somewhere leads there still, and new entries are directories
that were missing above `target`. -/
structure Keeps (t t' : FileTree) (current : Location) (target : Path) (changed : Location → Prop) :
    Prop where
  entries : ∀ {l node}, ¬ changed l → t.at? l = some node → t'.at? l = some node
  paths : ∀ {p l}, t.find current p = .ok l → t'.find current p = .ok l
  new : ∀ {l node}, ¬ changed l → t.at? l = none → t'.at? l = some node →
    node = .directory ∧
      ∃ q, q.Above target ∧ t.leadsSomewhere current q = false ∧ t'.find current q = .ok l

theorem Grows.keeps {changed : Location → Prop} (g : t.Grows t')
    (h : ∀ l, ¬ changed l → t'.at? l = t.at? l ∨
      (t.at? l = none ∧ t'.at? l = some .directory ∧
        ∃ q, q.Above target ∧ t'.find current q = .ok l)) :
    t.Keeps t' current target changed where
  entries {l node} hl hn := at?_eq_some_of_new (h l hl) hn
  paths hf := find_grows g hf
  new {l node} hl h0 h1 := by
    -- a location that was empty and is not any more is one of the new directories
    rcases h l hl with hs | ⟨-, hd, q, hq, hf⟩
    · rw [hs, h0] at h1
      cases h1
    · rw [hd] at h1
      cases h1
      exact ⟨rfl, q, hq, leadsSomewhere_of_new g h0 hf, hf⟩

/-! ## A text that was saved -/

theorem Saved.grows {place : Location} (h : t.Saved t' current target text place) : t.Grows t' :=
  grows_of_kept (h.free.imp_right fun ⟨c, hc⟩ => ⟨c, .text text, hc, h.holds⟩)
    fun l _ hl hn => at?_eq_some_of_new (h.others l hl) hn

/-- Saving that failed has made directories above the path at most. -/
theorem widens_of_save_failed {e : SaveError} (h : t.save current target text = (t', some e)) :
    t.Widens t' current (fun q => q.Above target) := by
  have hw := widens_above t current target
  simp only [save] at h
  split at h
  next made _ hmade =>
    cases h
    rwa [hmade] at hw
  next made hmade =>
    rw [hmade] at hw
    split at h
    · cases h
    · cases h
      exact hw

/-- A text that was saved is read under its path, in a file that was free or a file before, and all
else is kept. Saving that failed keeps everything. -/
theorem save_keeps (t : FileTree) (current : Location) (target : Path) (text : List Char) :
    match t.save current target text with
    | (t', none) => t'.read current target = .ok text ∧
        ∃ place, t'.find current target = .ok place ∧
          (t.at? place = none ∨ ∃ c, t.at? place = some (.file c)) ∧
          t.Keeps t' current target (· = place)
    | (t', some _) => t.Keeps t' current target (fun _ => False) := by
  cases h : t.save current target text with
  | mk t' problem =>
    cases problem with
    | none =>
      obtain ⟨place, hs⟩ := saved_save h
      exact ⟨read_of_save h, place, hs.leads, hs.free, hs.grows.keeps hs.others⟩
    | some e =>
      have hw := widens_of_save_failed h
      exact hw.grows.keeps fun l _ => hw l

/-- A directory that was made stays when the file could not be written. -/
example : (empty.save [] ⟨"d/x/".toList⟩ ['y']).2 = some (.file ⟨"d/x/".toList⟩ .isDirectory) ∧
    (empty.save [] ⟨"d/x/".toList⟩ ['y']).1.entries = [([['d']], .directory)] := by
  constructor <;> cbv

end Remap.FileTree
