import Remap.Proofs.Command.Checks
import Remap.Proofs.Command.Echo
import Remap.Proofs.Command.Effect
import Remap.Proofs.Files.Clearing
/-!
# Whether an accepted output file can be written

The path of an output file is accepted by its name, its extension, and what it leads to before any
directory is made for it. It can be written if it ends with its name, without a slash or a dot
behind it, and if two dots in it come behind nothing but what is there. A slash behind the name is
accepted too, but nothing can be written there.

Main statement: `save_of_resolve`.
-/

namespace Remap

namespace Path

variable {p : Path} {name : List Char}

/-- A path with a name ends with it, and not with two dots. -/
theorem strides_of_fileName? (h : p.fileName? = some name) :
    p.strides.getLast? ≠ some ['.', '.'] := by
  obtain ⟨front, hsteps⟩ := List.getLast?_eq_some_iff.mp (getLast?_of_fileName? h)
  have hname : name ≠ ['.', '.'] := by
    rintro rfl
    have hmem : .name ['.', '.'] ∈ p.steps := by simp [hsteps]
    rcases List.mem_append.mp hmem with hlead | hpart
    · rcases cut_cases p with ⟨_, hc⟩ | hc | ⟨_, hc⟩ | ⟨hc, -⟩
      all_goals simp [hc] at hlead
    · cases stepOf_of_mem_filterMap hpart
  rw [strides, hsteps, List.filterMap_append]
  simpa [Step.part?] using hname

end Path

namespace FileTree

open Remap.Path (Rooted Extends)

variable {t : FileTree} {current : Location} {p q : Path}

/-- Whatever is there above the path is a directory, and two dots above it come behind nothing but
what is there. -/
structure Passable (t : FileTree) (current : Location) (p : Path) : Prop where
  directory : ∀ q : Path, q.Above p → t.leadsSomewhere current q = true →
    t.isDirectory current q = true
  up : ∀ q : Path, q.Above p → q.strides.getLast? = some ['.', '.'] →
    t.leadsSomewhere current q = true

theorem Passable.parent (h : t.Passable current p) (hq : p.parent? = some q) :
    t.Passable current q where
  directory r hr := h.directory r (.up hq hr)
  up r hr := h.up r (.up hq hr)

/-- A path leads somewhere, or nothing stands at its place. -/
theorem Passable.leads_or_none (h : t.Passable current p) (ht : t.Linkless) (hp : p.Rooted)
    (hf : p.Fits)
    (hup : p.strides.getLast? = some ['.', '.'] → t.leadsSomewhere current p = true) :
    t.leadsSomewhere current p = true ∨ t.at? p.place = none := by
  -- down from the root: as long as paths lead somewhere the walk can be continued by one part
  induction hp using Rooted.ind with
  | top p hp hnames =>
    have hdir : t.isDirectory current p = true := isDirectory_of_names_nil hp hf hnames
    obtain ⟨l, hl, -⟩ := isDirectory_iff.mp hdir
    exact .inl (leadsSomewhere_iff.mpr ⟨l, hl⟩)
  | below q p gap last hq hp he ih =>
    have habove : q.Above p := .parent he.parent
    rcases ih (h.parent he.parent) (he.fits hq hf) (h.up q habove) with hleads | hnone
    -- the path above leads to a directory, and either holds the last part or does not
    · refine or_iff_not_imp_right.mpr fun hsome => ?_
      obtain ⟨hd, k, hk⟩ :=
        walk_names_extends ht hq (he.fits hq hf) he (h.directory q habove hleads)
      refine leadsSomewhere_iff.mpr ⟨p.place, ?_⟩
      refine find_eq_ok_iff.mpr ⟨[], entrance_of_fits hp.absolute hf, ?_⟩
      rw [he.place] at hsome ⊢
      rw [hp.tidy.trail_eq, ← List.append_nil p.names, hk,
        walk_behind ht hd he.last (byteCount_last he hf) hsome, walk_nil]
    · by_cases hlast : last = ['.', '.']
      · exact .inl (hup (by rw [he.strides, hlast, List.getLast?_concat]))
      · -- nothing stands below what is not there
        right
        rw [he.place, Location.behind, if_neg hlast]
        cases hnode : t.at? (last :: q.place) with
        | none => rfl
        | some node =>
          rw [at?_tail hnode] at hnone
          cases hnone

/-- The paths above a passable one lead to directories, or nothing stands at their places. -/
theorem Passable.above (h : t.Passable current p) (ht : t.Linkless) (hp : p.Rooted) (hf : p.Fits)
    (hq : q.Above p) : t.isDirectory current q = true ∨ t.at? q.place = none := by
  induction hq with
  | parent hq =>
    obtain ⟨hrooted, gap, last, he⟩ := hp.extends hq
    have habove : Path.Above _ _ := .parent hq
    exact ((h.parent hq).leads_or_none ht hrooted (he.fits hrooted hf)
      (h.up _ habove)).imp_left (h.directory _ habove)
  | up hr _ ih =>
    obtain ⟨hrooted, gap, last, he⟩ := hp.extends hr
    exact ih (h.parent hr) hrooted (he.fits hrooted hf)

/-- The place of a passable path that ends with a name is open, unless a directory is there. -/
theorem Passable.open_place (h : t.Passable current p) (ht : t.Linkless) (hp : p.Rooted)
    (hf : p.Fits) (hname : p.strides.getLast? ≠ some ['.', '.'])
    (hnot : t.isDirectory current p = false) : t.Open p := by
  -- the place is free, or what stands there is no directory since the path leads to it
  have hplace : t.at? p.place ≠ some .directory := by
    rcases h.leads_or_none ht hp hf fun hup => absurd hup hname with hleads | hnone
    · obtain ⟨l, hl⟩ := leadsSomewhere_iff.mp hleads
      obtain ⟨rfl, -⟩ := place_of_find ht hp.absolute hl
      intro hd
      rw [isDirectory_iff.mpr ⟨_, hl, hd⟩] at hnot
      cases hnot
    · simp [hnone]
  refine ⟨hplace, fun q hq heq => ?_, fun q hq => ?_⟩
  · have hrooted := Path.rooted_of_above hp.absolute hq
    rcases h.above ht hp hf hq with hdir | hnone
    · rw [← heq] at hplace
      exact hplace (at?_place_of_isDirectory ht hrooted.absolute hdir)
    · -- nothing that lies below `q` is there, so that no two dots come behind `q`
      have hlt := Path.length_place_of_above hp hq fun r hr hqr hup => by
        have hleads : t.leadsSomewhere current r = true := by
          rcases hr with rfl | hr
          · exact absurd hup hname
          · exact h.up r hr hup
        obtain ⟨l, hl⟩ := leadsSomewhere_iff.mp hleads
        have hdir := isDirectory_of_above hqr hrooted.ne_nil hl
        rw [at?_place_of_isDirectory ht hrooted.absolute hdir] at hnone
        cases hnone
      rw [heq] at hlt
      exact Nat.lt_irrefl _ hlt
  · rcases h.above ht hp hf hq with hdir | hnone
    · exact .inr (at?_place_of_isDirectory ht
        (Path.rooted_of_above hp.absolute hq).absolute hdir)
    · exact .inl hnone

end FileTree

/-! ## Output files -/

open FileTree

variable {t : FileTree} {current : Location} {home : Option Path} {a : Arguments} {r : Request}
  {p : Path}

/-- The path of an output file that was accepted is absolute, has a name, and leads to no
directory. -/
theorem output_of_resolve
    (hr : (a.resolve (t.look current) ⟨current.path, home⟩ : Except Refusal Request) = .ok r)
    (hm : r.mode = .file p) :
    p.isAbsolute = true ∧ (∃ name, p.fileName? = some name) ∧
      t.isDirectory current p = false := by
  rcases cases_of_resolve hr with ⟨term, -, hsearch⟩ | ⟨hs, hnames⟩
  · rw [hm] at hsearch
    cases hsearch
  · obtain ⟨hname, hdir⟩ := ((resolve_eq_ok_iff hs).mp hr).2.output p hm
    refine ⟨?_, ?_, hdir⟩
    · have hleads := hnames.mode
      rw [hm] at hleads
      generalize a.output = output at hleads
      cases hleads
      exact isAbsolute_fullPath rfl _
    · obtain ⟨⟨stem, hstem, -⟩, -⟩ := hasNameAndExtension_iff.mp hname
      obtain ⟨name, hfile, -⟩ := Option.map_eq_some_iff.mp hstem
      exact ⟨name, hfile⟩

/-- In a tree without links, let an output file be accepted above which nothing but directories is
there. Every text can be saved under its path, if the path ends with its name, is short enough, and
has two dots only behind what is there. In general a text can be saved there exactly if the path
ends with its name, is short enough, and has an open place. -/
theorem save_of_resolve (ht : t.Linkless)
    (hr : (a.resolve (t.look current) ⟨current.path, home⟩ : Except Refusal Request) = .ok r)
    (hm : r.mode = .file p)
    (hdirs : ∀ q : Path, q.Above p → t.leadsSomewhere current q = true →
      t.isDirectory current q = true) (text : List Char) :
    (p.Tidy → p.Fits → (∀ q : Path, q.Above p → q.strides.getLast? = some ['.', '.'] →
      t.leadsSomewhere current q = true) → (t.save current p text).2 = none) ∧
    ((t.save current p text).2 = none ↔ p.Tidy ∧ p.Fits ∧ t.Open p) := by
  obtain ⟨ha, ⟨name, hname⟩, hnot⟩ := output_of_resolve hr hm
  refine ⟨fun htidy hf hup => (save_eq_none_iff ht ha text).mpr ⟨htidy, hf, ?_⟩,
    save_eq_none_iff ht ha text⟩
  have hpass : t.Passable current p := ⟨hdirs, hup⟩
  exact hpass.open_place ht ⟨ha, htidy⟩ hf (Path.strides_of_fileName? hname) hnot

theorem linkless_sampleTree : sampleTree.Linkless :=
  (FileTree.linkless_empty.put (by simp) _ _).put (by simp) _ _

/-- A text is saved below a directory that is missing. -/
theorem save_of_resolve_sample :
    sampleTree.Linkless ∧
    (sampleArguments.resolve (sampleTree.look []) ⟨Location.path [], none⟩ :
      Except Refusal Request) =
        .ok ⟨sampleArguments, .file ⟨"/d/o.c".toList⟩, ⟨"/t".toList⟩, ⟨"/m.txt".toList⟩⟩ ∧
    (∀ q : Path, q.Above ⟨"/d/o.c".toList⟩ → sampleTree.leadsSomewhere [] q = true →
      sampleTree.isDirectory [] q = true) ∧
    (sampleTree.save [] ⟨"/d/o.c".toList⟩ ['y']).2 = none := by
  have hresolve : (sampleArguments.resolve (sampleTree.look []) ⟨Location.path [], none⟩ :
      Except Refusal Request) =
        .ok ⟨sampleArguments, .file ⟨"/d/o.c".toList⟩, ⟨"/t".toList⟩, ⟨"/m.txt".toList⟩⟩ := by cbv
  have habove : ∀ q : Path, q.Above ⟨"/d/o.c".toList⟩ → q = ⟨"/d".toList⟩ ∨ q = ⟨['/']⟩ := by
    have hparent : (⟨"/d/o.c".toList⟩ : Path).parent? = some ⟨"/d".toList⟩ := by cbv
    have hparent' : (⟨"/d".toList⟩ : Path).parent? = some ⟨['/']⟩ := by cbv
    intro q hq
    rwa [Path.above_iff hparent, Path.above_iff hparent', or_iff_left (Path.not_above rfl)] at hq
  have hdirs : ∀ q : Path, q.Above ⟨"/d/o.c".toList⟩ → sampleTree.leadsSomewhere [] q = true →
      sampleTree.isDirectory [] q = true := by
    intro q hq hleads
    rcases habove q hq with rfl | rfl
    · have hmissing : sampleTree.leadsSomewhere [] ⟨"/d".toList⟩ = false := by cbv
      rw [hmissing] at hleads
      cases hleads
    · cbv
  have hup : ∀ q : Path, q.Above ⟨"/d/o.c".toList⟩ → q.strides.getLast? = some ['.', '.'] →
      sampleTree.leadsSomewhere [] q = true := by
    intro q hq hlast
    rcases habove q hq with rfl | rfl <;> cases hlast
  have hfits : Path.Fits ⟨"/d/o.c".toList⟩ := ⟨by decide, by decide, by decide⟩
  have htidy : Path.Tidy ⟨"/d/o.c".toList⟩ := by decide
  exact ⟨linkless_sampleTree, hresolve, hdirs,
    (save_of_resolve linkless_sampleTree hresolve rfl hdirs ['y']).1 htidy hfits hup⟩

/-- The arguments that ask for the text to be written to a path with a slash behind its name. -/
def slashArguments : Arguments := { sampleArguments with output := some (some "o.c/".toList) }

/-- A path with a slash behind its name is accepted, but nothing is saved under it. -/
theorem save_of_resolve_slash :
    sampleTree.Linkless ∧
    (slashArguments.resolve (sampleTree.look []) ⟨Location.path [], none⟩ :
      Except Refusal Request) =
        .ok ⟨slashArguments, .file ⟨"/o.c/".toList⟩, ⟨"/t".toList⟩, ⟨"/m.txt".toList⟩⟩ ∧
    (∀ q : Path, q.Above ⟨"/o.c/".toList⟩ → sampleTree.leadsSomewhere [] q = true →
      sampleTree.isDirectory [] q = true) ∧
    (sampleTree.save [] ⟨"/o.c/".toList⟩ ['y']).2 =
      some (.file ⟨"/o.c/".toList⟩ .isDirectory) := by
  refine ⟨linkless_sampleTree, by cbv, fun q hq _ => ?_, by cbv⟩
  have hparent : (⟨"/o.c/".toList⟩ : Path).parent? = some ⟨['/']⟩ := by cbv
  rw [Path.above_iff hparent, or_iff_left (Path.not_above rfl)] at hq
  subst hq
  cbv

end Remap
