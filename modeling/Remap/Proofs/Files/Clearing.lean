import Remap.Proofs.Files.Rewriting
import Remap.Proofs.Path.Place
/-!
# Which paths can be written without links

In a tree without links a path that ends with a name is written to its place, and the directories
that are missing above it can be made first, if no file is in the way of any of them.

Main statement: `save_eq_none_iff`.
-/

namespace Remap.FileTree

open Remap.Path (Rooted Extends)

variable {t t' : FileTree} {current place l : Location} {links : Nat} {part last : List Char}
  {parts gap rest : List (List Char)} {p q : Path}

/-- There are no links in the tree. -/
def Linkless (t : FileTree) : Prop := ∀ l target, t.at? l ≠ some (.link target)

theorem linkless_empty : empty.Linkless := by
  intro l target h
  cases l <;> cases h

theorem Linkless.put (h : t.Linkless) {node : Node} (hn : ∀ target, node ≠ .link target)
    (dir : Location) (name : List Char) : (t.put dir name node).Linkless := by
  intro l target hl
  by_cases hput : t.Admits dir name node
  · rw [at?_put hput] at hl
    split at hl
    · exact hn target (Option.some.inj hl)
    · exact h l target hl
  · rw [FileTree.put, dif_neg hput] at hl
    exact h l target hl

/-! ## Walks without links -/

theorem Linkless.solid (h : t.Linkless) (hl : t.at? l ≠ none) : t.Solid l := by
  obtain ⟨node, hnode⟩ := Option.ne_none_iff_exists'.mp hl
  exact ⟨node, hnode, fun target hn => h l target (hn ▸ hnode)⟩

/-- Two dots behind a directory lead to a directory. -/
theorem at?_behind_up (hd : t.at? place = some .directory) :
    t.at? (place.behind ['.', '.']) = some .directory := by
  cases place with
  | nil => exact hd
  | cons name dir => exact at?_tail hd

/-- A walk goes on with a part to what stands there. -/
theorem walk_behind (ht : t.Linkless) (hd : t.at? place = some .directory)
    (hi : ¬ Path.idle part = true) (hb : byteCount part ≤ maxNameBytes)
    (hl : t.at? (place.behind part) ≠ none) :
    t.walk false links place (part :: rest) = t.walk false links (place.behind part) rest := by
  unfold Location.behind at hl ⊢
  split
  next hu =>
    subst hu
    exact walk_up hd
  next hu =>
    rw [if_neg hu] at hl
    exact walk_solid hd ⟨hi, hu, Nat.not_lt.mpr hb⟩ (ht.solid hl)

/-- A walk ends at a part that leads to nothing: the name is free if nothing comes behind it. -/
theorem walk_behind_none (hd : t.at? place = some .directory) (hi : ¬ Path.idle part = true)
    (hb : byteCount part ≤ maxNameBytes) (hl : t.at? (place.behind part) = none) :
    t.walk false links place (part :: rest) =
      if rest = [] then .ok (.free place part) else .error .notFound := by
  by_cases hu : part = ['.', '.']
  · subst hu
    rw [at?_behind_up hd] at hl
    cases hl
  · rw [Location.behind, if_neg hu] at hl
    rw [walk, if_neg (by simpa using hd), if_neg hi, if_neg hu, if_neg (by simp),
      if_neg (Nat.not_lt.mpr hb), hl]

/-- Idle parts make no difference to a walk that begins in a directory. -/
theorem walk_gap (hd : t.at? place = some .directory) (hg : ∀ x ∈ gap, Path.idle x = true) :
    t.walk false links place (gap ++ rest) = t.walk false links place rest := by
  induction gap with
  | nil => rfl
  | cons x gap ih =>
    rw [List.cons_append, walk_idle hd (hg x List.mem_cons_self)]
    exact ih fun y hy => hg y (List.mem_cons_of_mem x hy)

/-- The parts of a walk that comes to an entry are short enough. -/
theorem byteCount_of_walk (hi : ¬ Path.idle part = true)
    (h : t.walk false links place (part :: rest) = .ok (.entry l)) :
    byteCount part ≤ maxNameBytes := by
  rw [walk] at h
  split at h
  · cases h
  · split at h
    next hu =>
      subst hu
      decide
    next =>
      rw [if_neg (by simp)] at h
      split at h
      · cases h
      next hb => exact Nat.le_of_not_lt hb

/-- Without links a walk ends where its parts lead. -/
theorem place_of_walk (ht : t.Linkless) (hi : ∀ x ∈ parts, ¬ Path.idle x = true)
    (h : t.walk false links place parts = .ok (.entry l)) :
    l = parts.foldl Location.behind place ∧ ∀ x ∈ parts, byteCount x ≤ maxNameBytes := by
  induction parts generalizing place with
  | nil =>
    rw [walk_nil] at h
    cases h
    exact ⟨rfl, by simp⟩
  | cons part rest ih =>
    have hd := (walk_cons h).1
    have hrest : ∀ x ∈ rest, ¬ Path.idle x = true := fun x hx => hi x (List.mem_cons_of_mem part hx)
    have hpart := hi part List.mem_cons_self
    have hb := byteCount_of_walk hpart h
    -- a walk to an entry meets no free name, and without links each part is one step
    by_cases hl : t.at? (place.behind part) = none
    · rw [walk_behind_none hd hpart hb hl] at h
      split at h <;> cases h
    · rw [walk_behind ht hd hpart hb hl] at h
      obtain ⟨hplace, hnames⟩ := ih hrest h
      exact ⟨hplace, List.forall_mem_cons.mpr ⟨hb, hnames⟩⟩

/-! ## Where paths lead without links -/

theorem entrance_of_fits (ha : p.isAbsolute = true) (hf : p.Fits) :
    entrance current p = .ok [] := by
  have hne : ¬ p.text = [] := by
    intro h
    simp [Path.isAbsolute, h] at ha
  rw [entrance, if_neg hf.noNul, if_neg hne, if_neg (Nat.not_lt.mpr hf.short), if_pos ha]

theorem not_idle_of_mem_strides (h : part ∈ p.strides) : ¬ Path.idle part = true := by
  rw [← Path.filter_names] at h
  simpa using (List.mem_filter.mp h).2

/-- Without links an absolute path leads to its place, and is short enough to do so. -/
theorem place_of_find (ht : t.Linkless) (ha : p.isAbsolute = true)
    (h : t.find current p = .ok l) : l = p.place ∧ p.Fits := by
  obtain ⟨start, hstart, hwalk⟩ := find_eq_ok_iff.mp h
  have hwalk := walk_filter hwalk
  rw [Path.filter_trail] at hwalk
  obtain ⟨rfl, hnames⟩ := place_of_walk ht (fun x hx => not_idle_of_mem_strides hx) hwalk
  unfold entrance at hstart
  split at hstart
  · cases hstart
  next hnul =>
    split at hstart
    · cases hstart
    split at hstart
    · cases hstart
    next hshort =>
      obtain rfl : [] = start := by simpa [ha] using hstart
      exact ⟨rfl, hnul, Nat.le_of_not_lt hshort, hnames⟩

theorem at?_place_of_isDirectory (ht : t.Linkless) (ha : p.isAbsolute = true)
    (h : t.isDirectory current p = true) : t.at? p.place = some .directory := by
  obtain ⟨l, hl, hd⟩ := isDirectory_iff.mp h
  rwa [← (place_of_find ht ha hl).1]

/-- The walk along the names of a path that leads to a directory. -/
theorem walk_names (ht : t.Linkless) (hp : p.Rooted) (hf : p.Fits)
    (h : t.isDirectory current p = true) :
    t.at? p.place = some .directory ∧
      ∃ k, ∀ xs, t.walk false maxLinks [] (p.names ++ xs) = t.walk false k p.place xs := by
  obtain ⟨l, hl, hd⟩ := isDirectory_iff.mp h
  obtain ⟨start, hstart, hwalk⟩ := (find_iff_strides hd).mp hl
  rw [entrance_of_fits hp.absolute hf] at hstart
  cases hstart
  rw [← Path.filter_names] at hwalk
  obtain ⟨rfl, -⟩ := place_of_find ht hp.absolute hl
  exact ⟨hd, walk_append (walk_of_filter hd hwalk)⟩

theorem isDirectory_of_names_nil (hp : p.Rooted) (hf : p.Fits) (h : p.names = []) :
    t.isDirectory current p = true := by
  have htrail : p.trail = [] := by
    rw [Path.trail, if_neg (by simp [h]), h]
  refine isDirectory_iff.mpr ⟨[], find_eq_ok_iff.mpr ⟨[], entrance_of_fits hp.absolute hf, ?_⟩, rfl⟩
  rw [htrail, walk_nil]

/-- The walk along the names of a path whose parent leads to a directory. -/
theorem walk_names_extends (ht : t.Linkless) (hq : q.Rooted) (hf : q.Fits)
    (he : q.Extends p gap last) (hdir : t.isDirectory current q = true) :
    t.at? q.place = some .directory ∧
      ∃ k, ∀ xs,
        t.walk false maxLinks [] (p.names ++ xs) = t.walk false k q.place (last :: xs) := by
  obtain ⟨hd, k, hk⟩ := walk_names ht hq hf hdir
  refine ⟨hd, k, fun xs => ?_⟩
  rw [he.names, List.append_assoc, List.append_assoc, hk, walk_gap hd he.gap]
  rfl

theorem byteCount_last (he : q.Extends p gap last) (hf : p.Fits) :
    byteCount last ≤ maxNameBytes :=
  hf.names last (by rw [he.strides]; exact List.mem_append_right _ List.mem_cons_self)

/-- A path leads to a directory if its parent does and one stands at its place. -/
theorem isDirectory_of_extends (ht : t.Linkless) (hq : q.Rooted) (hp : p.Rooted) (hf : p.Fits)
    (he : q.Extends p gap last) (hdir : t.isDirectory current q = true)
    (h : t.at? p.place = some .directory) : t.isDirectory current p = true := by
  obtain ⟨hd, k, hk⟩ := walk_names_extends ht hq (he.fits hq hf) he hdir
  have hwalk : t.walk false maxLinks [] p.names = .ok (.entry p.place) := by
    have hne : t.at? (q.place.behind last) ≠ none := by
      rw [← he.place, h]
      simp
    rw [← List.append_nil p.names, hk, walk_behind ht hd he.last (byteCount_last he hf) hne,
      walk_nil, he.place]
  exact isDirectory_iff.mpr ⟨p.place,
    find_eq_ok_iff.mpr ⟨[], entrance_of_fits hp.absolute hf, walk_trail h hwalk⟩, h⟩

/-! ## Missing directories -/

/-- Nothing but directories stands at the places of a path and of those above it. -/
def Clear (t : FileTree) (p : Path) : Prop :=
  ∀ q, (q = p ∨ q.Above p) → t.at? q.place = none ∨ t.at? q.place = some .directory

theorem Clear.parent (h : t.Clear p) (hq : p.parent? = some q) : t.Clear q := fun r hr =>
  h r (.inr ((Path.above_iff hq).mpr hr))

/-- The walk has come to a name that is not there. -/
def Misses : Except FileError Spot → Prop
  | .error e => e = .notFound
  | .ok (.free _ _) => True
  | .ok (.entry _) => False

/-- Along a clear path that leads to no directory a walk comes to a name that is not there. -/
theorem misses_walk (ht : t.Linkless) (hp : p.Rooted) (hf : p.Fits) (hc : t.Clear p)
    (hdir : t.isDirectory current p = false) (xs : List (List Char)) :
    Misses (t.walk false maxLinks [] (p.names ++ xs)) := by
  -- the walk stops above `p` whatever comes behind, so that `xs` takes up the steps below
  induction hp using Rooted.ind generalizing xs with
  | top p hp hnames =>
    rw [isDirectory_of_names_nil hp hf hnames] at hdir
    cases hdir
  | below q p gap last hq hp he ih =>
    cases hparent : t.isDirectory current q with
    | false =>
      have := ih (he.fits hq hf) (hc.parent he.parent) hparent (gap ++ [last] ++ xs)
      rwa [he.names, List.append_assoc]
    | true =>
      obtain ⟨hd, k, hk⟩ := walk_names_extends ht hq (he.fits hq hf) he hparent
      have hnone : t.at? (q.place.behind last) = none := by
        rcases hc p (.inl rfl) with hnone | hsome
        · rwa [he.place] at hnone
        · rw [isDirectory_of_extends ht hq hp hf he hparent hsome] at hdir
          cases hdir
      rw [hk, walk_behind_none hd he.last (byteCount_last he hf) hnone]
      split
      · trivial
      · rfl

/-- A directory that is missing is not made if the one above it is missing too. -/
theorem makeDirectory_of_missing (ht : t.Linkless) (hq : q.Rooted) (hp : p.Rooted) (hf : p.Fits)
    (hc : t.Clear p) (he : q.Extends p gap last) (hdir : t.isDirectory current q = false) :
    t.makeDirectory current p = .error .notFound := by
  have hmisses := misses_walk ht hq (he.fits hq hf) (hc.parent he.parent) hdir gap
  rw [makeDirectory, entrance_of_fits hp.absolute hf]
  simp only [he.getLast?_names, he.dropLast_names]
  generalize t.walk false maxLinks [] (q.names ++ gap) = ending at hmisses ⊢
  cases ending with
  | error e =>
    obtain rfl : e = .notFound := hmisses
    rfl
  | ok spot =>
    cases spot with
    | entry dir => exact absurd hmisses id
    | free dir name => rfl

/-- A directory can be made in one that is there, if nothing is at its place. -/
theorem makeDirectory_of_parent (ht : t.Linkless) (hq : q.Rooted) (hp : p.Rooted) (hf : p.Fits)
    (he : q.Extends p gap last) (hdir : t.isDirectory current q = true)
    (hnone : t.at? p.place = none) : ∃ t', t.makeDirectory current p = .ok t' := by
  obtain ⟨hd, k, hk⟩ := walk_names ht hq (he.fits hq hf) hdir
  have hgap : t.walk false k q.place gap = .ok (.entry q.place) := by
    rw [← List.append_nil gap, walk_gap hd he.gap, walk_nil]
  have hb : ¬ maxNameBytes < byteCount last := Nat.not_lt.mpr (byteCount_last he hf)
  rw [he.place] at hnone
  have hup : last ≠ ['.', '.'] := by
    rintro rfl
    rw [at?_behind_up hd] at hnone
    cases hnone
  rw [Location.behind, if_neg hup] at hnone
  rw [makeDirectory, entrance_of_fits hp.absolute hf]
  simp only [he.getLast?_names, he.dropLast_names, hk, hgap]
  simp [hd, he.last, hup, hb, hnone]

/-! ## Making what is missing -/

variable {kind : Path → Prop}

theorem Widens.linkless (ht : t.Linkless) (h : t.Widens t' current kind) : t'.Linkless := by
  intro l target hl
  rcases h l with hsame | ⟨-, hdir, -⟩
  · exact ht l target (hsame ▸ hl)
  · rw [hdir] at hl
    cases hl

/-- Where no file was, none is after directories were made. -/
theorem Widens.clear (h : t.Widens t' current kind)
    (hl : t.at? l = none ∨ t.at? l = some .directory) :
    t'.at? l = none ∨ t'.at? l = some .directory := by
  rcases h l with hsame | ⟨-, hdir, -⟩
  · rwa [hsame]
  · exact .inr hdir

/-- What is new without links stands at the places of the paths that were made. -/
theorem Widens.at?_place (ht : t.Linkless) (ha : ∀ q, kind q → q.isAbsolute = true)
    (h : t.Widens t' current kind) (l : Location) : t'.at? l = t.at? l ∨
      (t.at? l = none ∧ t'.at? l = some .directory ∧ ∃ q, kind q ∧ q.place = l) := by
  rcases h l with hsame | ⟨hnone, hdir, q, hq, hfind⟩
  · exact .inl hsame
  · exact .inr ⟨hnone, hdir, q, hq, (place_of_find (h.linkless ht) (ha q hq) hfind).1.symm⟩

/-- A path whose parent leads to a directory leads to one too, or it can be made, unless a file is in
its place. -/
theorem isDirectory_or_made (ht : t.Linkless) (hq : q.Rooted) (hp : p.Rooted) (hf : p.Fits)
    (he : q.Extends p gap last) (hdir : t.isDirectory current q = true)
    (hl : t.at? p.place = none ∨ t.at? p.place = some .directory) :
    t.isDirectory current p = true ∨ ∃ t', t.makeDirectory current p = .ok t' := by
  rcases hl with hnone | hsome
  · exact .inr (makeDirectory_of_parent ht hq hp hf he hdir hnone)
  · exact .inl (isDirectory_of_extends ht hq hp hf he hdir hsome)

/-- After the directories above a path were made, it is made too, or it is there already. -/
theorem makeDirectories_of_missing (hp : p.parent? = some q) (hne : p.text ≠ [])
    (hmissing : t.makeDirectory current p = .error .notFound)
    (habove : t.makeDirectories current q = (t', none))
    (h : t'.isDirectory current p = true ∨ ∃ t'', t'.makeDirectory current p = .ok t'') :
    (t.makeDirectories current p).2 = none := by
  rw [makeDirectories, if_neg hne, hmissing]
  simp only
  split
  next hnone =>
    rw [hp] at hnone
    cases hnone
  next above hsome =>
    obtain rfl : q = above := Option.some.inj (hp.symm.trans hsome)
    simp only [habove]
    -- a directory that came to be with those above it is an error of `makeDirectory`, but is let
    -- pass
    rcases h with hdir | ⟨t'', hmake⟩
    · obtain ⟨e, -, hmake⟩ := makeDirectory_of_isDirectory hdir
      simp only [hmake, hdir, if_true]
    · simp only [hmake]

/-- The directories of a clear path can be made. -/
theorem makeDirectories_of_clear (ht : t.Linkless) (hp : p.Rooted) (hf : p.Fits)
    (hc : t.Clear p) : (t.makeDirectories current p).2 = none := by
  induction hp using Rooted.ind with
  | top p hp hnames => rw [makeDirectories_of_isDirectory (isDirectory_of_names_nil hp hf hnames)]
  | below q p gap last hq hp he ih =>
    cases hparent : t.isDirectory current q with
    | true =>
      rcases isDirectory_or_made ht hq hp hf he hparent (hc p (.inl rfl)) with hdir | ⟨t', hmake⟩
      · rw [makeDirectories_of_isDirectory hdir]
      · rw [makeDirectories, if_neg hp.ne_nil, hmake]
    | false =>
      -- the directories above are made first, which leaves the way clear
      have hmissing := makeDirectory_of_missing ht hq hp hf hc he hparent
      obtain ⟨hw, hmade⟩ := widens_makeDirectories t current q
      have hnone := ih (he.fits hq hf) (hc.parent he.parent)
      have hdir := (hmade hnone).resolve_left hq.ne_nil
      exact makeDirectories_of_missing he.parent hp.ne_nil hmissing (Prod.ext rfl hnone)
        (isDirectory_or_made (hw.linkless ht) hq hp hf he hdir (hw.clear (hc p (.inl rfl))))

/-! ## Writing -/

/-- Without links and without empty parts it makes no difference whether a walk is for writing. -/
theorem walk_true (ht : t.Linkless) (hparts : [] ∉ parts) :
    t.walk true links place parts = t.walk false links place parts := by
  induction parts generalizing place with
  | nil => rw [walk_nil, walk_nil]
  | cons part rest ih =>
    rw [List.mem_cons, not_or] at hparts
    have hrest : rest ≠ [[]] := by
      rintro rfl
      exact hparts.2 List.mem_cons_self
    -- writing matters only in front of an empty last part, and for the target of a link
    rw [walk, walk]
    simp only [hrest, and_false, if_false, ih hparts.2]
    split
    · rfl
    · split
      · rfl
      · split
        · rfl
        · split
          · rfl
          · split
            · rfl
            next target hl => exact absurd hl (ht _ target)
            · rfl

/-- A file can be written into a directory that is there, unless a directory is at its place. -/
theorem write_of_parent (ht : t.Linkless) (hq : q.Rooted) (hp : p.Rooted) (hf : p.Fits)
    (he : q.Extends p gap last) (hdir : t.isDirectory current q = true)
    (hne : t.at? p.place ≠ some .directory) (content : Content) :
    ∃ t', t.write current p content = .ok t' := by
  obtain ⟨hd, k, hk⟩ := walk_names_extends ht hq (he.fits hq hf) he hdir
  have hb := byteCount_last he hf
  have hup : last ≠ ['.', '.'] := by
    rintro rfl
    rw [he.place] at hne
    exact hne (at?_behind_up hd)
  have hplace : q.place.behind last = last :: q.place := if_neg hup
  -- the walk comes as far as the parent, with one part to go
  have hlocate : t.locate current true p = t.walk false k q.place [last] := by
    have hnames : [] ∉ p.names := fun h => by simpa using (List.mem_filter.mp h).2
    simp only [locate, entrance_of_fits hp.absolute hf, hp.tidy.trail_eq, walk_true ht hnames]
    rw [← hk, List.append_nil]
  rw [he.place, hplace] at hne
  cases hnode : t.at? (last :: q.place) with
  | none =>
    rw [walk_behind_none hd he.last hb (hplace ▸ hnode), if_pos rfl] at hlocate
    exact ⟨_, by rw [write, hlocate]⟩
  | some node =>
    have hsome : t.at? (q.place.behind last) ≠ none := by
      rw [hplace, hnode]
      simp
    rw [walk_behind ht hd he.last hb hsome, walk_nil, hplace] at hlocate
    exact ⟨_, by rw [write, hlocate]; exact if_neg hne⟩

/-! ## Saving -/

/-- The place of a path is one for a file: no directory stands there or is made on the way, and no
file is on the way. -/
structure Open (t : FileTree) (p : Path) : Prop where
  place : t.at? p.place ≠ some .directory
  apart : ∀ q : Path, q.Above p → q.place ≠ p.place
  above : ∀ q : Path, q.Above p → t.at? q.place = none ∨ t.at? q.place = some .directory

/-- A text can be saved at an open place. -/
theorem save_of_open (ht : t.Linkless) (hp : p.Rooted) (hf : p.Fits) (ho : t.Open p)
    (text : List Char) : (t.save current p text).2 = none := by
  rcases hp.cases with hnames | ⟨q, gap, last, hq, he⟩
  · have htop : p.place = [] := by
      rw [Path.place, ← Path.filter_names, hnames]
      rfl
    exact absurd (by rw [htop]; rfl) ho.place
  · have habove : ∀ r : Path, (r = q ∨ r.Above q) → r.Above p := fun _ =>
      (Path.above_iff he.parent).mpr
    have hnone : (t.makeDirectories current q).2 = none :=
      makeDirectories_of_clear ht hq (he.fits hq hf) fun r hr => ho.above r (habove r hr)
    obtain ⟨hw, hmade⟩ := widens_makeDirectories t current q
    unfold save
    rw [he.parent]
    simp only [Option.getD_some]
    generalize t.makeDirectories current q = made at hw hmade hnone ⊢
    obtain ⟨t', problem⟩ := made
    cases hnone
    -- what was made stands at the places of paths above `p`, which are not its own
    have hplace : t'.at? p.place ≠ some .directory := by
      rcases hw.at?_place ht
        (fun r hr => (Path.rooted_of_above hp.absolute (habove r hr)).absolute) p.place with
        hsame | ⟨-, -, r, hr, hrp⟩
      · rw [hsame]
        exact ho.place
      · exact absurd hrp (ho.apart r (habove r hr))
    obtain ⟨after, hwrite⟩ := write_of_parent (hw.linkless ht) hq hp hf he
      ((hmade rfl).resolve_left hq.ne_nil) hplace (.text text)
    simp only [hwrite]

/-- A path that leads to a file ends with its last step. -/
theorem tidy_of_find (h : t.find current p = .ok l) (hl : t.at? l ≠ some .directory) : p.Tidy := by
  obtain ⟨start, -, hwalk⟩ := find_eq_ok_iff.mp h
  intro part hpart hi
  obtain ⟨front, hfront⟩ := List.getLast?_eq_some_iff.mp hpart
  rw [hfront] at hwalk
  obtain ⟨d, hd, hbefore⟩ := walk_front (List.cons_ne_nil part []) hwalk
  obtain ⟨k, hk⟩ := walk_append hbefore
  rw [hk, walk_idle hd hi, walk_nil] at hwalk
  cases hwalk
  exact hl hd

theorem Saved.linkless {text : List Char} (ht : t.Linkless)
    (hs : t.Saved t' current p text place) : t'.Linkless := by
  intro l target hl
  by_cases hplace : l = place
  · rw [hplace, hs.holds] at hl
    cases hl
  · rcases hs.others l hplace with hsame | ⟨-, hdir, -⟩
    · exact ht l target (hsame ▸ hl)
    · rw [hdir] at hl
      cases hl

/-- A text was saved at an open place. -/
theorem Saved.open_place {text : List Char} (ht : t.Linkless) (ha : p.isAbsolute = true)
    (hs : t.Saved t' current p text p.place) : t.Open p := by
  have hdir : ∀ q : Path, q.Above p → t'.at? q.place = some .directory := by
    intro q hq
    have hrooted := Path.rooted_of_above ha hq
    exact at?_place_of_isDirectory (hs.linkless ht) hrooted.absolute
      (hs.above q hq hrooted.ne_nil)
  -- the place holds a file afterwards, and all that is above it directories
  have hapart : ∀ q : Path, q.Above p → q.place ≠ p.place := by
    intro q hq hplace
    have := hdir q hq
    rw [hplace, hs.holds] at this
    cases this
  refine ⟨?_, hapart, fun q hq => ?_⟩
  · rcases hs.free with hnone | ⟨c, hfile⟩
    · simp [hnone]
    · simp [hfile]
  · rcases hs.others q.place (hapart q hq) with hsame | ⟨hnone, -⟩
    · exact .inr (hsame ▸ hdir q hq)
    · exact .inl hnone

/-- Without links a text can be saved under an absolute path exactly if the path ends with its last
step, is short enough, and has an open place. -/
theorem save_eq_none_iff (ht : t.Linkless) (ha : p.isAbsolute = true) (text : List Char) :
    (t.save current p text).2 = none ↔ p.Tidy ∧ p.Fits ∧ t.Open p := by
  constructor
  · intro h
    obtain ⟨place, hs⟩ := saved_save (Prod.ext rfl h : t.save current p text = (_, none))
    obtain ⟨rfl, hf⟩ := place_of_find (hs.linkless ht) ha hs.leads
    have htidy : p.Tidy := tidy_of_find hs.leads (by simp [hs.holds])
    exact ⟨htidy, hf, hs.open_place ht ha⟩
  · rintro ⟨htidy, hf, ho⟩
    exact save_of_open ht ⟨ha, htidy⟩ hf ho text

end Remap.FileTree
