import Remap.Files.Access
import Remap.Proofs.Text.Split
/-!
# Walks in steps

What one step of a walk does, and what a walk does along parts that stand one behind the other: it
goes along the first of them to a directory, and from there along the others.

Main statements: `walk_append` and `walk_front`. By `holds_of_locate_ok` a path that can be walked
leads to what its spot says, whatever the current directory is.
-/

namespace Remap.FileTree

variable {t : FileTree} {writing : Bool} {links : Nat} {place : Location}

/-! ## Parts of paths -/

/-- A part that is looked up as a name. -/
structure IsName (part : List Char) : Prop where
  idle : ¬ Path.idle part = true
  up : part ≠ ['.', '.']
  short : ¬ maxNameBytes < byteCount part

/-- What stands between the slashes of a path that can be walked. -/
structure IsPart (part : List Char) : Prop where
  noSlash : '/' ∉ part
  noNul : '\x00' ∉ part

theorem IsPart.entryName {part : List Char} (h : IsPart part) (hname : IsName part) :
    EntryName part :=
  ⟨hname.idle, hname.up, h.noSlash, Nat.not_lt.mp hname.short, h.noNul⟩

theorem isName_of_entryName {part : List Char} (h : EntryName part) : IsName part :=
  ⟨h.idle, h.up, Nat.not_lt.mpr h.short⟩

theorem isPart_of_mem_names {p : Path} (hn : '\x00' ∉ p.text) {part : List Char}
    (h : part ∈ p.names) : IsPart part := by
  have hpart : part ∈ Path.parts p.text := (List.mem_filter.mp h).1
  refine ⟨fun hslash => ?_, fun hnul => hn (Text.mem_of_mem_splitAt hpart hnul)⟩
  cases Text.of_mem_splitAt hpart '/' hslash

theorem isPart_of_mem_trail {p : Path} (hn : '\x00' ∉ p.text) {part : List Char}
    (h : part ∈ p.trail) : IsPart part := by
  unfold Path.trail at h
  split at h
  · rcases List.mem_append.mp h with h | h
    · exact isPart_of_mem_names hn h
    · rw [List.mem_singleton.mp h]
      exact ⟨by simp, by simp⟩
  · exact isPart_of_mem_names hn h

/-! ## Steps of a walk -/

/-- What is not a link. -/
def Solid (t : FileTree) (l : Location) : Prop :=
  ∃ node, t.at? l = some node ∧ ∀ target, node ≠ .link target

theorem walk_nil : t.walk writing links place [] = .ok (.entry place) := by rw [walk]

theorem walk_idle {part : List Char} {rest : List (List Char)}
    (hd : t.at? place = some .directory) (hi : Path.idle part = true) :
    t.walk writing links place (part :: rest) = t.walk writing links place rest := by
  rw [walk, if_neg (by simpa using hd), if_pos hi]

theorem walk_up {rest : List (List Char)} (hd : t.at? place = some .directory) :
    t.walk writing links place (['.', '.'] :: rest) = t.walk writing links place.tail rest := by
  rw [walk, if_neg (by simpa using hd), if_neg (by decide), if_pos rfl]

theorem walk_link {part : List Char} {rest : List (List Char)} {target : Path}
    (hd : t.at? place = some .directory) (hp : IsName part)
    (hl : t.at? (part :: place) = some (.link target)) :
    t.walk false (links + 1) place (part :: rest) =
      t.walk false links (if target.isAbsolute then [] else place) (target.trail ++ rest) := by
  rw [walk, if_neg (by simpa using hd), if_neg hp.idle, if_neg hp.up, if_neg (by simp),
    if_neg hp.short, hl]

theorem walk_solid {part : List Char} {rest : List (List Char)}
    (hd : t.at? place = some .directory) (hp : IsName part) (hs : t.Solid (part :: place)) :
    t.walk false links place (part :: rest) = t.walk false links (part :: place) rest := by
  obtain ⟨node, hn, hl⟩ := hs
  rw [walk, if_neg (by simpa using hd), if_neg hp.idle, if_neg hp.up, if_neg (by simp),
    if_neg hp.short, hn]
  cases node with
  | file c => rfl
  | directory => rfl
  | link target => exact absurd rfl (hl target)

/-! ## Walks along parts in two rows -/

/-- Behind an entry a walk goes on with as many links as it has left. -/
theorem walk_append {xs : List (List Char)} {d : Location}
    (h : t.walk false links place xs = .ok (.entry d)) :
    ∃ k, ∀ ys, t.walk false links place (xs ++ ys) = t.walk false k d ys := by
  fun_induction walk t false links place xs with
  | case1 links => cases h; exact ⟨links, fun ys => rfl⟩
  | case2 => cases h
  | case3 _ _ _ _ hd hi ih =>
    obtain ⟨k, hk⟩ := ih h
    refine ⟨k, fun ys => ?_⟩
    rw [List.cons_append, walk_idle (by simpa using hd) hi, hk]
  | case4 _ _ _ hd _ ih =>
    obtain ⟨k, hk⟩ := ih h
    refine ⟨k, fun ys => ?_⟩
    rw [List.cons_append, walk_up (by simpa using hd), hk]
  | case5 => cases h
  | case6 => cases h
  | case7 => cases h
  | case8 => cases h
  | case9 => cases h
  | case10 _ _ _ hd hi hu _ hb _ hl _ ih =>
    -- the parts of a link come in front of those that are left, and so of `ys` too
    obtain ⟨k, hk⟩ := ih h
    refine ⟨k, fun ys => ?_⟩
    rw [List.cons_append, walk_link (by simpa using hd) ⟨hi, hu, hb⟩ hl, ← List.append_assoc]
    exact hk ys
  | case11 _ _ _ _ hd hi hu _ hb node hn hl ih =>
    obtain ⟨k, hk⟩ := ih h
    refine ⟨k, fun ys => ?_⟩
    rw [List.cons_append, walk_solid (by simpa using hd) ⟨hi, hu, hb⟩ ⟨node, hl, hn⟩, hk]

/-- A walk that comes to an end has come to a directory before each of its parts. -/
theorem walk_front {xs ys : List (List Char)} {l : Location} (hy : ys ≠ [])
    (h : t.walk false links place (xs ++ ys) = .ok (.entry l)) :
    ∃ d, t.at? d = some .directory ∧ t.walk false links place xs = .ok (.entry d) := by
  generalize hp : xs ++ ys = parts at h
  fun_induction walk t false links place parts generalizing xs with
  | case1 => simp [hy] at hp
  | case2 => cases h
  | case3 _ place _ _ hd hi ih =>
    -- if no part is left in front, the walk has come to a directory, from which it takes the next
    -- step
    cases xs with
    | nil => exact ⟨place, by simpa using hd, walk_nil⟩
    | cons x xs =>
      cases hp
      rw [walk_idle (by simpa using hd) hi]
      exact ih rfl h
  | case4 _ place _ hd _ ih =>
    cases xs with
    | nil => exact ⟨place, by simpa using hd, walk_nil⟩
    | cons x xs =>
      cases hp
      rw [walk_up (by simpa using hd)]
      exact ih rfl h
  | case5 => cases h
  | case6 => cases h
  | case7 => cases h
  | case8 => cases h
  | case9 => cases h
  | case10 place _ _ hd hi hu _ hb target hl _ ih =>
    cases xs with
    | nil => exact ⟨place, by simpa using hd, walk_nil⟩
    | cons x xs =>
      cases hp
      rw [walk_link (by simpa using hd) ⟨hi, hu, hb⟩ hl]
      exact ih (List.append_assoc target.trail xs ys) h
  | case11 _ place _ _ hd hi hu _ hb node hn hl ih =>
    cases xs with
    | nil => exact ⟨place, by simpa using hd, walk_nil⟩
    | cons x xs =>
      cases hp
      rw [walk_solid (by simpa using hd) ⟨hi, hu, hb⟩ ⟨node, hl, hn⟩]
      exact ih rfl h

/-- A slash at the end of a path makes no difference to where it leads, if that is a directory. -/
theorem walk_trail {p : Path} {d : Location} (hd : t.at? d = some .directory)
    (h : t.walk false links place p.names = .ok (.entry d)) :
    t.walk false links place p.trail = .ok (.entry d) := by
  unfold Path.trail
  split
  · obtain ⟨k, hk⟩ := walk_append h
    rw [hk, walk_idle hd (by decide), walk_nil]
  · exact h

/-! ## Where a walk ends -/

/-- A spot is what it says: something solid, or a name that an entry can have and that is free in a
directory. -/
def Holds (t : FileTree) : Spot → Prop
  | .entry l => t.Solid l
  | .free dir name =>
    t.at? dir = some .directory ∧ t.at? (name :: dir) = none ∧ EntryName name

theorem solid_nil (t : FileTree) : t.Solid [] := ⟨.directory, rfl, by simp⟩

theorem solid_tail {t : FileTree} {l : Location} (h : t.Solid l) : t.Solid l.tail := by
  cases l with
  | nil => exact h
  | cons name dir =>
    obtain ⟨node, h, -⟩ := h
    exact ⟨.directory, at?_tail h, by simp⟩

theorem holds_of_walk {parts : List (List Char)} {spot : Spot} (hp : t.Solid place)
    (hparts : ∀ part ∈ parts, IsPart part)
    (h : t.walk writing links place parts = .ok spot) : t.Holds spot := by
  fun_induction walk t writing links place parts with
  | case1 => cases h; exact hp
  | case2 => cases h
  | case3 _ _ _ _ _ _ ih => exact ih hp (fun x hx => hparts x (List.mem_cons_of_mem _ hx)) h
  | case4 _ _ _ _ _ ih =>
    exact ih (solid_tail hp) (fun x hx => hparts x (List.mem_cons_of_mem _ hx)) h
  | case5 => cases h
  | case6 => cases h
  | case7 _ _ part hd hi hu hb hn _ =>
    cases h
    exact ⟨by simpa using hd, hn, (hparts part List.mem_cons_self).entryName ⟨hi, hu, hb⟩⟩
  | case8 => cases h
  | case9 => cases h
  | case10 _ _ _ _ _ _ _ _ target hl _ ih =>
    -- the target of a link that is there is a path that can be walked itself
    refine ih ?_ (fun x hx => ?_) h
    · split
      · exact solid_nil t
      · exact hp
    · rcases List.mem_append.mp hx with hx | hx
      · exact isPart_of_mem_trail (possible_of_at? hl) hx
      · exact hparts x (List.mem_cons_of_mem _ hx)
  | case11 _ _ _ _ _ _ _ _ _ node hn hl ih =>
    exact ih ⟨node, hl, hn⟩ (fun x hx => hparts x (List.mem_cons_of_mem _ hx)) h

/-! ## What a path leads to -/

theorem noNul_of_entrance {current start : Location} {p : Path}
    (h : entrance current p = .ok start) : '\x00' ∉ p.text := by
  unfold entrance at h
  split at h
  next => cases h
  next hn => exact hn

/-- A relative path has a part to walk along. -/
theorem trail_ne_nil {p : Path} (hp : p.text ≠ []) (ha : p.isAbsolute = false) : p.trail ≠ [] := by
  obtain ⟨text⟩ := p
  cases text with
  | nil => exact absurd rfl hp
  | cons c cs =>
    have hc : ¬ (c == '/') = true := by
      rintro h
      simp [Path.isAbsolute, eq_of_beq h] at ha
    have hn : (⟨c :: cs⟩ : Path).names ≠ [] := by
      rw [Path.names, Path.parts, Text.splitAt, if_neg hc]
      split <;> simp
    unfold Path.trail
    split <;> simp [hn]

/-- What a path leads to is what its spot says, whatever the current directory is: a relative path
takes at least one step, and that step starts in a directory. -/
theorem holds_of_locate_ok {current : Location} {p : Path} {spot : Spot}
    (h : t.locate current writing p = .ok spot) : t.Holds spot := by
  unfold locate at h
  split at h
  · cases h
  next place he =>
    refine holds_of_walk ?_ (fun part => isPart_of_mem_trail (noNul_of_entrance he)) h
    unfold entrance at he
    split at he
    · cases he
    split at he
    · cases he
    next hp =>
      split at he
      · cases he
      · cases he
        split
        · exact solid_nil t
        -- a relative walk takes its first step from the current directory, which is one if there is
        -- a step
        next ha =>
          rw [if_neg ha] at h
          cases ht : p.trail with
          | nil => exact absurd ht (trail_ne_nil hp (by simpa using ha))
          | cons part rest =>
            rw [ht, walk] at h
            split at h
            · cases h
            next hd => exact ⟨.directory, by simpa using hd, by simp⟩

/-- A path leads to the entry at which the walk along it ends. -/
theorem find_eq_ok_iff {current l : Location} {p : Path} :
    t.find current p = .ok l ↔ ∃ start, entrance current p = .ok start ∧
      t.walk false maxLinks start p.trail = .ok (.entry l) := by
  unfold find locate
  cases entrance current p with
  | error e => simp
  | ok start =>
    simp only [Except.ok.injEq, exists_eq_left']
    split <;> simp_all

theorem isDirectory_iff {current : Location} {p : Path} :
    t.isDirectory current p = true ↔ ∃ l, t.find current p = .ok l ∧ t.at? l = some .directory := by
  unfold isDirectory
  cases t.find current p with
  | error e => simp
  | ok l => simp

theorem leadsSomewhere_iff {current : Location} {p : Path} :
    t.leadsSomewhere current p = true ↔ ∃ l, t.find current p = .ok l := by
  unfold leadsSomewhere
  cases t.find current p with
  | error e => simp [Except.isOk, Except.toBool]
  | ok l => simp [Except.isOk, Except.toBool]

theorem solid_of_find {current l : Location} {p : Path} (h : t.find current p = .ok l) :
    t.Solid l := by
  unfold find at h
  split at h
  next hk => cases h; exact holds_of_locate_ok hk
  next => cases h
  next => cases h

end Remap.FileTree
