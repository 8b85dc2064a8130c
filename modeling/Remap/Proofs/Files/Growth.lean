import Remap.Proofs.Files.Steps
/-!
# Trees that grow

A tree grows when its directories and links stay what they are and its files stay files. Whatever a
path leads to in a tree, it leads there still when the tree has grown; and a path that led to a free
name leads to what has been put there.

Main statement: `walk_of_grows`.
-/

namespace Remap

/-- The location at which a walk ends, whether something is there or not. -/
def Spot.place : Spot → Location
  | entry l => l
  | free dir name => name :: dir

namespace FileTree

variable {t t' t'' : FileTree} {writing : Bool} {links : Nat} {place : Location}

/-- Directories and links of `t` are the same in `t'`, and its files are still files there. -/
structure Grows (t t' : FileTree) : Prop where
  directory : ∀ {l}, t.at? l = some .directory → t'.at? l = some .directory
  link : ∀ {l target}, t.at? l = some (.link target) → t'.at? l = some (.link target)
  file : ∀ {l c}, t.at? l = some (.file c) → ∃ c', t'.at? l = some (.file c')

/-- What is no link in a tree is none in a tree that it grows to. -/
theorem Grows.solid {l : Location} (g : t.Grows t') (h : t.Solid l) : t'.Solid l := by
  obtain ⟨node, hn, hl⟩ := h
  cases node with
  | file c =>
    obtain ⟨c', hc⟩ := g.file hn
    exact ⟨_, hc, by simp⟩
  | directory => exact ⟨_, g.directory hn, by simp⟩
  | link target => exact absurd rfl (hl target)

/-- An entry is kept where all that differs is new. -/
theorem at?_eq_some_of_new {l : Location} {node : Node} {new : Prop}
    (h : t'.at? l = t.at? l ∨ t.at? l = none ∧ new) (hl : t.at? l = some node) :
    t'.at? l = some node := by
  rcases h with hs | ⟨h0, -⟩
  · rw [hs, hl]
  · rw [h0] at hl
    cases hl

/-- A tree grows when all is kept but at one place, where nothing was, or a file that is replaced by
a file. -/
theorem grows_of_kept
    (hp : t.at? place = none ∨
      ∃ c c', t.at? place = some (.file c) ∧ t'.at? place = some (.file c'))
    (h : ∀ l node, l ≠ place → t.at? l = some node → t'.at? l = some node) : t.Grows t' := by
  -- neither a directory nor a link was at the place itself
  have apart : ∀ {l node}, t.at? l = some node → (∀ c, node ≠ .file c) → l ≠ place := by
    rintro l node hl hfile rfl
    rcases hp with h0 | ⟨c, -, hc, -⟩
    · cases h0.symm.trans hl
    · exact hfile c (Option.some.inj (hl.symm.trans hc))
  refine ⟨fun hl => h _ _ (apart hl (by simp)) hl, fun hl => h _ _ (apart hl (by simp)) hl, ?_⟩
  intro l c hl
  by_cases hplace : l = place
  · subst hplace
    rcases hp with h0 | ⟨-, c', -, hc'⟩
    · cases h0.symm.trans hl
    · exact ⟨c', hc'⟩
  · exact ⟨c, h l _ hplace hl⟩

theorem grows_of_at?_eq_none {node : Node} (hn : t.at? place = none)
    (h : ∀ l, t'.at? l = if l = place then some node else t.at? l) : t.Grows t' :=
  grows_of_kept (.inl hn) fun l x hl hx => by rw [h, if_neg hl, hx]

theorem grows_of_at?_file {content : Content}
    (hp : t.at? place = none ∨ ∃ c, t.at? place = some (.file c))
    (h : ∀ l, t'.at? l = if l = place then some (.file content) else t.at? l) : t.Grows t' :=
  grows_of_kept (hp.imp_right fun ⟨c, hc⟩ => ⟨c, content, hc, by rw [h, if_pos rfl]⟩)
    fun l x hl hx => by rw [h, if_neg hl, hx]

/-! ## Walks in a tree that has grown -/

/-- A walk goes the same way in a tree that has grown: it ends at the same entry, or at what has
been put under the name that was free. -/
theorem walk_of_grows {parts : List (List Char)} {spot : Spot} (g : t.Grows t')
    (hs : t'.Solid spot.place) (h : t.walk writing links place parts = .ok spot) :
    t'.walk false links place parts = .ok (.entry spot.place) := by
  fun_induction walk t writing links place parts with
  | case1 => cases h; exact walk_nil
  | case2 => cases h
  | case3 _ _ _ _ hd hi ih => rw [walk_idle (g.directory (by simpa using hd)) hi]; exact ih h
  | case4 _ _ _ hd _ ih => rw [walk_up (g.directory (by simpa using hd))]; exact ih h
  | case5 => cases h
  | case6 => cases h
  | case7 _ _ _ hd hi hu hb =>
    -- the name that was free: what it holds now is no link, so that the walk ends there
    cases h
    rw [walk_solid (g.directory (by simpa using hd)) ⟨hi, hu, hb⟩ hs, walk_nil]
    rfl
  | case8 => cases h
  | case9 => cases h
  | case10 _ _ _ hd hi hu _ hb _ hl _ ih =>
    rw [walk_link (g.directory (by simpa using hd)) ⟨hi, hu, hb⟩ (g.link hl)]
    exact ih h
  | case11 _ _ _ _ hd hi hu _ hb node hn hl ih =>
    rw [walk_solid (g.directory (by simpa using hd)) ⟨hi, hu, hb⟩ (g.solid ⟨node, hl, hn⟩)]
    exact ih h

/-- A path leads to the same entry in a tree that has grown, or to what has been put under the name
that was free. -/
theorem find_of_grows {current : Location} {p : Path} {spot : Spot} (g : t.Grows t')
    (hs : t'.Solid spot.place) (h : t.locate current writing p = .ok spot) :
    t'.find current p = .ok spot.place := by
  unfold locate at h
  split at h
  · cases h
  next place he =>
    simp only [find, locate, he, walk_of_grows g hs h]

/-- A path that leads somewhere leads there still when the tree has grown. -/
theorem find_grows {current l : Location} {p : Path} (g : t.Grows t')
    (h : t.find current p = .ok l) : t'.find current p = .ok l := by
  have hs := g.solid (solid_of_find h)
  unfold find at h
  split at h
  next hk =>
    cases h
    exact find_of_grows g (show t'.Solid (Spot.entry l).place from hs) hk
  next => cases h
  next => cases h

end FileTree
end Remap
