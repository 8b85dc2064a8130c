import Remap.Proofs.Files.Steps
import Remap.Proofs.Path.Steps
/-!
# Walking by the steps of a path

A walk that ends at a directory goes the same way whether or not it passes idle parts, so that the
steps of a path say where it leads. A path that has the steps of a directory and some more leads to
where a walk from this directory along those steps ends.

Main statements: `find_iff_strides` and `find_iff_of_steps_append`.
-/

namespace Remap

/-- The parts of a path that are not idle. -/
def Path.strides (p : Path) : List (List Char) := p.steps.filterMap Path.Step.part?

theorem Path.filter_names (p : Path) : (p.names.filter fun part => !idle part) = p.strides := by
  rw [strides, filterMap_part?_steps, names, List.filter_filter]
  refine List.filter_congr fun part _ => ?_
  cases part with
  | nil => rfl
  | cons c cs => simp

theorem Path.filter_trail (p : Path) : (p.trail.filter fun part => !idle part) = p.strides := by
  rw [trail]
  split
  · rw [List.filter_append, p.filter_names]
    exact List.append_nil _
  · exact p.filter_names

/-- A character that no idle part has is in a path if it is in one of its strides. -/
theorem Path.mem_text_iff {p : Path} {c : Char} (hs : c ≠ '/') (hd : c ≠ '.') :
    c ∈ p.text ↔ ∃ part ∈ p.strides, c ∈ part := by
  rw [strides, filterMap_part?_steps]
  constructor
  · intro h
    rw [← Text.join_splitAt '/' p.text] at h
    obtain ⟨part, hp, hc⟩ := (Text.mem_join h).resolve_left (by simpa using hs)
    refine ⟨part, List.mem_filter.mpr ⟨hp, ?_⟩, hc⟩
    cases hi : idle part with
    | false => rfl
    | true =>
      rcases (by simpa [idle] using hi : part = [] ∨ part = ['.']) with rfl | rfl
      · cases hc
      · exact absurd (List.mem_singleton.mp hc) hd
  · rintro ⟨part, hp, hc⟩
    exact Text.mem_of_mem_splitAt (List.mem_filter.mp hp).1 hc

namespace FileTree

variable {t : FileTree} {current place l r : Location} {links : Nat} {part : List Char}
  {parts rest : List (List Char)} {p q root : Path}

/-- A walk takes one part after the other: it is in a directory, and behind the first part it goes
on with as many links as it has left. -/
theorem walk_cons (h : t.walk false links place (part :: rest) = .ok (.entry l)) :
    t.at? place = some .directory ∧
      ∃ k d, ∀ xs, t.walk false links place (part :: xs) = t.walk false k d xs := by
  constructor
  · rw [walk] at h
    split at h
    · cases h
    next hd => simpa using hd
  · obtain ⟨d, hd⟩ : ∃ d, t.walk false links place [part] = .ok (.entry d) := by
      by_cases hr : rest = []
      · subst hr
        exact ⟨l, h⟩
      · have h' : t.walk false links place ([part] ++ rest) = .ok (.entry l) := h
        obtain ⟨d, -, hd⟩ := walk_front hr h'
        exact ⟨d, hd⟩
    obtain ⟨k, hk⟩ := walk_append hd
    exact ⟨k, d, hk⟩

theorem at?_of_walk_directory (hl : t.at? l = some .directory)
    (h : t.walk false links place parts = .ok (.entry l)) : t.at? place = some .directory := by
  cases parts with
  | nil =>
    rw [walk_nil] at h
    cases h
    exact hl
  | cons part rest => exact (walk_cons h).1

theorem walk_filter (h : t.walk false links place parts = .ok (.entry l)) :
    t.walk false links place (parts.filter fun part => !Path.idle part) = .ok (.entry l) := by
  induction parts generalizing links place with
  | nil => exact h
  | cons part rest ih =>
    obtain ⟨hd, k, d, hk⟩ := walk_cons h
    by_cases hi : Path.idle part = true
    · rw [List.filter_cons_of_neg (by simp [hi])]
      rw [walk_idle hd hi] at h
      exact ih h
    · rw [List.filter_cons_of_pos (by simp [hi]), hk]
      rw [hk] at h
      exact ih h

/-- A walk that ends at a directory may pass idle parts on its way. -/
theorem walk_of_filter (hl : t.at? l = some .directory)
    (h : t.walk false links place (parts.filter fun part => !Path.idle part) = .ok (.entry l)) :
    t.walk false links place parts = .ok (.entry l) := by
  induction parts generalizing links place with
  | nil => exact h
  | cons part rest ih =>
    by_cases hi : Path.idle part = true
    · rw [List.filter_cons_of_neg (by simp [hi])] at h
      rw [walk_idle (at?_of_walk_directory hl h) hi]
      exact ih h
    · rw [List.filter_cons_of_pos (by simp [hi])] at h
      obtain ⟨-, k, d, hk⟩ := walk_cons h
      rw [hk] at h ⊢
      exact ih h

/-! ## Paths that lead to directories -/

/-- A path leads to the directory at which a walk along its steps ends. -/
theorem find_iff_strides (hl : t.at? l = some .directory) :
    t.find current p = .ok l ↔ ∃ start, entrance current p = .ok start ∧
      t.walk false maxLinks start p.strides = .ok (.entry l) := by
  rw [find_eq_ok_iff, ← Path.filter_trail]
  exact exists_congr fun start =>
    and_congr_right fun _ => ⟨walk_filter, walk_of_filter hl⟩

theorem entrance_of_steps {start start' : Location} (hp : entrance current p = .ok start)
    (hq : entrance current q = .ok start') (h : p.steps.head? = q.steps.head?) :
    start' = start := by
  have ha : p.isAbsolute = q.isAbsolute := by
    rw [Bool.eq_iff_iff, Path.isAbsolute_iff_head?_steps, Path.isAbsolute_iff_head?_steps, h]
  have of_ok : ∀ {p : Path} {start : Location}, entrance current p = .ok start →
      start = if p.isAbsolute then [] else current := by
    intro p start h
    unfold entrance at h
    repeat' split at h
    all_goals cases h
    all_goals simp [*]
  rw [of_ok hp, of_ok hq, ha]

/-- A walk can begin along a path that has the steps of another, unless the path is too long. -/
theorem entrance_of_same {start : Location} (h : entrance current p = .ok start)
    (hs : q.steps = p.steps) :
    (∃ start', entrance current q = .ok start') ∨ maxPathBytes < byteCount q.text := by
  by_cases hb : maxPathBytes < byteCount q.text
  · exact .inr hb
  refine .inl ⟨if q.isAbsolute then [] else current, ?_⟩
  unfold entrance at h ⊢
  split at h
  · cases h
  next hnul =>
    split at h
    · cases h
    next hp =>
      have hq : q.text ≠ [] := by
        intro hq
        obtain ⟨text⟩ := q
        cases hq
        exact Path.steps_ne_nil hp hs.symm
      -- a NUL stands in a step if it stands in the text at all
      have hnul' : ¬ '\x00' ∈ q.text := by
        rw [Path.mem_text_iff (by decide) (by decide), Path.strides, hs]
        rwa [Path.mem_text_iff (by decide) (by decide)] at hnul
      rw [if_neg hnul', if_neg hq, if_neg hb]

/-- A path that has the steps of a directory and some more leads to the directory at which a walk
from there along those steps ends. -/
theorem find_iff_of_steps_append {start : Location} {more : List Path.Step}
    (hroot : t.find current root = .ok r) (hr : t.at? r = some .directory) (hne : root.steps ≠ [])
    (hq : entrance current q = .ok start) (hs : q.steps = root.steps ++ more) :
    ∃ k, ∀ l, t.at? l = some .directory → (t.find current q = .ok l ↔
      t.walk false k r (more.filterMap Path.Step.part?) = .ok (.entry l)) := by
  obtain ⟨start', hstart, hwalk⟩ := (find_iff_strides hr).mp hroot
  have hsame : start = start' := by
    refine entrance_of_steps hstart hq ?_
    obtain ⟨s, ss, hss⟩ := List.exists_cons_of_ne_nil hne
    rw [hs, hss]
    rfl
  subst hsame
  -- the walk begins with that of the root, which leaves `k` links to follow
  obtain ⟨k, hk⟩ := walk_append hwalk
  refine ⟨k, fun l hl => ?_⟩
  have hstrides : q.strides = root.strides ++ more.filterMap Path.Step.part? := by
    rw [Path.strides, hs, List.filterMap_append, Path.strides]
  rw [find_iff_strides hl, ← hk, ← hstrides]
  exact ⟨fun ⟨_, he, h⟩ => Except.ok.inj (he.symm.trans hq) ▸ h, fun h => ⟨start, hq, h⟩⟩

end FileTree
end Remap
