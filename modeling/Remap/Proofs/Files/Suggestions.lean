import Remap.Proofs.Files.Listing
import Remap.Proofs.Files.Saving
import Remap.Proofs.Files.Strides
import Remap.Proofs.Text.Search
import Remap.Proofs.Unicode.Lowercase
/-!
# What is suggested for a path that leads nowhere

The entries of the directory of the path are suggested, in the order in which they are listed, if
their names contain the name of the path without its extension. Every suggestion leads to its entry,
unless that is a link that leads nowhere.

Main statement: `FileTree.suggestions_usable`.
-/

namespace Remap

open Remap.Path (Step)

variable {p dir root : Path} {name stem tail : List Char} {e : Listed}

/-! ## Names of entries -/

/-- The name of a path has no slash in it. -/
theorem Path.slash_not_mem_fileName? (h : p.fileName? = some name) : '/' ∉ name := by
  have hpart : name ∈ p.steps.filterMap Step.part? :=
    List.mem_filterMap.mpr ⟨.name name, List.mem_of_getLast? (Path.getLast?_of_fileName? h), rfl⟩
  rw [Path.filterMap_part?_steps] at hpart
  intro hs
  have hne := Text.of_mem_splitAt (List.mem_filter.mp hpart).1 '/' hs
  cases hne

theorem Path.cutName_subset (name : List Char) : (Path.cutName name).1 ⊆ name := by
  unfold Path.cutName
  split
  next x c front hf =>
    intro d hd
    have hback : d ∈ name.reverse.dropWhile (· != '.') := by
      rw [hf]
      exact List.mem_cons_of_mem x (List.mem_reverse.mp hd)
    exact List.mem_reverse.mp ((List.dropWhile_sublist _).subset hback)
  next => exact List.Subset.refl name

theorem Path.slash_not_mem_stem? (h : p.stem? = some stem) : '/' ∉ stem := by
  obtain ⟨name, hn, rfl⟩ := Option.map_eq_some_iff.mp h
  exact fun hs => Path.slash_not_mem_fileName? hn (Path.cutName_subset name hs)

theorem EntryName.names (h : EntryName name) : Path.names ⟨name⟩ = [name] := by
  rw [Path.names, Path.parts, Text.splitAt_of_forall h.slash]
  simp [h.ne_nil]

namespace Listed

/-- An entry is shown by its name from its own directory on. -/
theorem shown_self (hdir : dir.text ≠ []) (h : EntryName e.name) :
    shown dir dir e = e.name ++ if e.isDirectory then ['/'] else [] := by
  have hstrip : (dir.join ⟨e.name⟩).stripPrefix? dir = some ⟨e.name⟩ :=
    Path.stripPrefix?_of_steps_concat (Path.steps_ne_nil hdir) (Path.steps_join_name dir h)
  rw [shown, hstrip]
  rfl

/-- An entry mentions a term without slashes if its name contains it. -/
theorem mentions_shown_self (hdir : dir.text ≠ []) (h : EntryName e.name) (hs : '/' ∉ stem) :
    mentions stem (shown dir dir e) = true ↔
      Unicode.lowercase stem <:+: Unicode.lowercase e.name := by
  rw [mentions_iff, shown_self hdir h]
  cases e.isDirectory with
  | false => rw [if_neg Bool.false_ne_true, List.append_nil]
  | true =>
    rw [if_pos rfl, Unicode.lowercase_slash]
    constructor
    · intro hin
      rcases Text.infix_append_cons (Unicode.slash_not_mem_lowercase hs) hin with hin | hin
      · exact hin
      · rw [List.infix_nil.mp hin]
        exact List.nil_infix
    · exact fun hin => hin.trans (List.prefix_append _ _).isInfix

end Listed

/-! ## Paths of entries -/

/-- A relative path that is joined to another is written behind it, and behind a slash if there is
none yet. -/
theorem Path.text_join (hdir : dir.text ≠ []) : ∃ sep : List Char, (∀ c ∈ sep, c = '/') ∧
    ∀ q : Path, q.isAbsolute = false → (dir.join q).text = dir.text ++ (sep ++ q.text) ∧
      (dir.join q).names = dir.names ++ q.names := by
  obtain ⟨text⟩ := dir
  -- a slash is put between only if there is none
  by_cases hs : text.getLast? = some '/'
  · obtain ⟨front, rfl⟩ := List.getLast?_eq_some_iff.mp hs
    have hfront : Path.names ⟨front ++ ['/']⟩ = Path.names ⟨front⟩ :=
      (Path.names_append_slash front []).trans (List.append_nil _)
    refine ⟨[], by simp, fun q hq => ?_⟩
    have hjoin : Path.join ⟨front ++ ['/']⟩ q = ⟨front ++ '/' :: q.text⟩ := by
      simp [Path.join, hq]
    rw [hjoin, hfront]
    exact ⟨by simp, Path.names_append_slash front q.text⟩
  · refine ⟨['/'], by simp, fun q hq => ?_⟩
    have hjoin : Path.join ⟨text⟩ q = ⟨text ++ '/' :: q.text⟩ := by
      simp only [Path.join, hq, hs, beq_iff_eq, Bool.or_eq_true, Bool.false_eq_true,
        show text ≠ [] from hdir, or_false, if_false]
    rw [hjoin]
    exact ⟨rfl, Path.names_append_slash text q.text⟩

namespace FileTree

variable {t : FileTree} {current l start : Location}

theorem text_ne_nil_of_entrance (h : entrance current p = .ok start) : p.text ≠ [] := by
  intro ht
  simp [entrance, ht] at h

/-- A walk that can begin along a path can begin along one that is longer. -/
theorem entrance_append (h : entrance current p = .ok start) (hnul : '\x00' ∉ tail)
    (hlong : byteCount (p.text ++ tail) ≤ maxPathBytes) :
    entrance current ⟨p.text ++ tail⟩ = .ok start := by
  unfold entrance at h ⊢
  split at h
  · cases h
  next hp =>
    split at h
    · cases h
    next hne =>
      split at h
      · cases h
      · have habs : Path.isAbsolute ⟨p.text ++ tail⟩ = p.isAbsolute := by
          simp [Path.isAbsolute, List.head?_append_of_ne_nil _ hne]
        have hnul' : ¬ '\x00' ∈ p.text ++ tail := by simp [hp, hnul]
        have hne' : ¬ p.text ++ tail = [] := by simp [hne]
        rw [if_neg hnul', if_neg hne', if_neg (Nat.not_lt.mpr hlong), habs]
        exact h

/-- The path of an entry of a directory leads to it. -/
theorem find_join (hl : t.find current dir = .ok l) (hd : t.at? l = some .directory)
    (hname : EntryName name) (hs : t.Solid (name :: l))
    (hlong : byteCount (dir.join ⟨name⟩).text ≤ maxPathBytes) :
    t.find current (dir.join ⟨name⟩) = .ok (name :: l) := by
  obtain ⟨start, hstart, hwalk⟩ := (find_iff_strides hd).mp hl
  obtain ⟨sep, hsep, hjoin⟩ := Path.text_join (text_ne_nil_of_entrance hstart)
  obtain ⟨htext, hnames⟩ := hjoin ⟨name⟩ (by simpa using hname.isAbsolute [])
  have hlast : (dir.text ++ (sep ++ name)).getLast? ≠ some '/' := by
    rw [← List.append_assoc, List.getLast?_append_of_ne_nil _ hname.ne_nil]
    exact fun h => hname.noSlash (List.mem_of_getLast? h)
  have htrail : (dir.join ⟨name⟩).trail = dir.names ++ [name] := by
    rw [Path.trail, htext, if_neg fun h => hlast h.1, hnames, hname.names]
  -- the path is longer than `dir`, but a walk along it begins in the same place
  have hentrance : entrance current (dir.join ⟨name⟩) = .ok start := by
    have hpath : dir.join ⟨name⟩ = ⟨dir.text ++ (sep ++ name)⟩ := congrArg Path.mk htext
    rw [htext] at hlong
    rw [hpath]
    refine entrance_append hstart ?_ hlong
    rw [List.mem_append, not_or]
    exact ⟨fun h => absurd (hsep _ h) (by decide), hname.noNul⟩
  obtain ⟨k, hk⟩ := walk_append (walk_of_filter hd (dir.filter_names.symm ▸ hwalk))
  refine find_eq_ok_iff.mpr ⟨start, hentrance, ?_⟩
  rw [htrail, hk, walk_solid hd (isName_of_entryName hname) hs, walk_nil]

/-- A slash at the end of a path makes no difference to where it leads, if that is a directory. -/
theorem find_slash (hl : t.find current p = .ok l) (hd : t.at? l = some .directory)
    (hlong : byteCount (p.text ++ ['/']) ≤ maxPathBytes) :
    t.find current ⟨p.text ++ ['/']⟩ = .ok l := by
  obtain ⟨start, hstart, hwalk⟩ := (find_iff_strides hd).mp hl
  have hsteps := Path.steps_slash p.text (text_ne_nil_of_entrance hstart)
  refine (find_iff_strides hd).mpr ⟨start, entrance_append hstart (by decide) hlong, ?_⟩
  rwa [Path.strides, hsteps]

/-! ## Suggestions -/

/-- The text by which an entry of `dir` is suggested. -/
def suggested (dir : Path) (e : Listed) : List Char :=
  (dir.join ⟨e.name⟩).text ++ if e.isDirectory then ['/'] else []

/-- The directory of a path, at `l`, in which other names may contain `stem`, the name of the path
without its extension. A single dash stands for no directory. -/
structure Neighbours (t : FileTree) (current : Location) (p : Path) (stem : List Char) (dir : Path)
    (l : Location) : Prop where
  stem : p.stem? = some stem
  parent : p.parent? = some dir
  leads : t.find current dir = .ok l
  directory : t.at? l = some .directory
  notDash : isDash dir = false

/-- The entry of the directory at `l`, to which `dir` leads, is no link that leads nowhere. -/
def NotDangling (t : FileTree) (current : Location) (dir : Path) (l : Location) (e : Listed) :
    Prop :=
  ∀ target, t.at? (e.name :: l) = some (.link target) →
    t.leadsSomewhere current (dir.join ⟨e.name⟩) = true

/-- A suggestion leads to its entry, unless that is a link. -/
theorem find_suggested (hl : t.find current dir = .ok l) (hd : t.at? l = some .directory)
    (hname : EntryName e.name) (he : t.Contains l e)
    (hlink : ∀ target, t.at? (e.name :: l) ≠ some (.link target))
    (hlong : byteCount (suggested dir e) ≤ maxPathBytes) :
    t.find current ⟨suggested dir e⟩ = .ok (e.name :: l) := by
  obtain ⟨node, hnode, hkind⟩ := he
  have hs : t.Solid (e.name :: l) := ⟨node, hnode, fun target h => hlink target (h ▸ hnode)⟩
  unfold suggested at hlong ⊢
  rw [byteCount_append] at hlong
  have hjoin := find_join hl hd hname hs (by omega)
  -- the slash behind a directory makes the walk ask for one more time that it is one
  cases hdir : e.isDirectory with
  | false =>
    rw [if_neg Bool.false_ne_true, List.append_nil]
    exact hjoin
  | true =>
    rw [hdir] at hkind hlong
    obtain rfl : node = .directory := of_decide_eq_true hkind.symm
    rw [if_pos rfl, ← byteCount_append] at hlong
    exact find_slash hjoin hnode hlong

/-- A suggestion leads somewhere if its entry is no link that leads nowhere. -/
theorem leadsSomewhere_suggested (hl : t.find current dir = .ok l)
    (hd : t.at? l = some .directory) (hname : EntryName e.name) (he : t.Contains l e)
    (hlink : t.NotDangling current dir l e) (hlong : byteCount (suggested dir e) ≤ maxPathBytes) :
    t.leadsSomewhere current ⟨suggested dir e⟩ = true := by
  obtain ⟨node, hnode, hkind⟩ := id he
  by_cases hn : ∃ target, node = .link target
  · obtain ⟨target, rfl⟩ := hn
    have hdir : e.isDirectory = false := by simpa using hkind
    rw [suggested, hdir, if_neg Bool.false_ne_true, List.append_nil]
    exact hlink target hnode
  · have hfind := find_suggested hl hd hname he
      (fun target h => hn ⟨target, Option.some.inj (hnode.symm.trans h)⟩) hlong
    exact leadsSomewhere_iff.mpr ⟨_, hfind⟩

theorem Neighbours.ne_nil (h : t.Neighbours current p stem dir l) : dir.text ≠ [] := by
  obtain ⟨start, hstart, -⟩ := find_eq_ok_iff.mp h.leads
  exact text_ne_nil_of_entrance hstart

/-- What is suggested from the directory of a path. -/
theorem Neighbours.suggestions_eq (h : t.Neighbours current p stem dir l) (limit : Nat) :
    (suggestions (t.look current) p limit : List (List Char)) =
      ((listDirectory (t.look current) stem dir dir : List (List Char)).take limit).map
        fun shown => (dir.join ⟨shown⟩).text := by
  have hne := h.ne_nil
  have hdir : ((t.look current).isDirectory dir : Bool) = true :=
    isDirectory_iff.mpr ⟨l, h.leads, h.directory⟩
  unfold suggestions
  simp only [h.stem, h.parent, if_neg hne, bind, pure, hdir, if_true]

/-- Nothing is suggested for a path without a name, or without a directory. -/
theorem suggestions_eq_nil (h : ¬ ∃ stem dir l, t.Neighbours current p stem dir l) (limit : Nat) :
    (suggestions (t.look current) p limit : List (List Char)) = [] := by
  unfold suggestions
  split
  next stem dir hstem hdir =>
    simp only [bind, pure]
    split
    · rfl
    · split
      next hd =>
        obtain ⟨l, hl, hld⟩ := isDirectory_iff.mp hd
        have hdash : isDash dir = true := by
          by_contra hdash
          exact h ⟨stem, dir, l, hstem, hdir, hl, hld, by simpa using hdash⟩
        simp only [listDirectory, hdash, if_true, pure, List.take_nil, List.map_nil]
      · rfl
  next => rfl

/-- The text of an entry, joined to its directory. -/
theorem text_join_shown (hdir : dir.text ≠ []) (hname : EntryName e.name) :
    (dir.join ⟨Listed.shown dir dir e⟩).text = suggested dir e := by
  obtain ⟨sep, -, hjoin⟩ := Path.text_join hdir
  have hplain := (hjoin ⟨e.name⟩ (by simpa using hname.isAbsolute [])).1
  rw [Listed.shown_self hdir hname, (hjoin _ (hname.isAbsolute _)).1, suggested, hplain]
  simp only [List.append_assoc]

/-- The entries that are suggested are the first in the order of listings whose names contain the
name of the path. -/
theorem Neighbours.exists_entries (h : t.Neighbours current p stem dir l)
    (limit : Nat) : ∃ es : List Listed,
      (suggestions (t.look current) p limit : List (List Char)) =
        (es.take limit).map (suggested dir) ∧
      es.Pairwise Listed.Precedes ∧
      ∀ e, e ∈ es ↔ t.Contains l e ∧ Unicode.lowercase stem <:+: Unicode.lowercase e.name := by
  have hlook : ((t.look current).list dir : List Listed).Perm (t.list current dir) :=
    List.Perm.refl _
  obtain ⟨es, hes, hsorted, hmem, -⟩ :=
    listDirectory_complete stem dir h.notDash h.leads hlook
  refine ⟨es, ?_, hsorted, fun e => ?_⟩
  · rw [h.suggestions_eq, hes, ← List.map_take, List.map_map]
    refine List.map_congr_left fun e he => ?_
    exact text_join_shown h.ne_nil ((hmem e).mp (List.mem_of_mem_take he)).1.entryName
  · rw [hmem]
    -- in its own directory an entry is shown by its name, apart from slashes that no stem has
    refine and_congr_right fun he => ?_
    rw [← mentions_iff]
    exact Listed.mentions_shown_self h.ne_nil he.entryName (Path.slash_not_mem_stem? h.stem)

/-- For a path that leads nowhere at most `limit` entries of its directory are suggested, and they
are the first in the order of listings of those whose names contain the name of the path without
its extension, without regard to case. Every suggestion leads somewhere, and so is not the path
itself, unless its entry is a link that leads nowhere. One whose entry is no link leads to it. -/
theorem suggestions_usable (hp : t.leadsSomewhere current p = false)
    (limit : Nat) :
    (∀ stem dir l, t.Neighbours current p stem dir l → ∃ es : List Listed,
      (suggestions (t.look current) p limit : List (List Char)) =
        (es.take limit).map (suggested dir) ∧
      es.Pairwise Listed.Precedes ∧
      (∀ e, e ∈ es ↔ t.Contains l e ∧
        Unicode.lowercase stem <:+: Unicode.lowercase e.name) ∧
      ∀ e ∈ es, byteCount (suggested dir e) ≤ maxPathBytes →
        (t.NotDangling current dir l e →
          t.leadsSomewhere current ⟨suggested dir e⟩ = true ∧ suggested dir e ≠ p.text) ∧
        ((∀ target, t.at? (e.name :: l) ≠ some (.link target)) →
          t.find current ⟨suggested dir e⟩ = .ok (e.name :: l))) ∧
    ((¬ ∃ stem dir l, t.Neighbours current p stem dir l) →
      (suggestions (t.look current) p limit : List (List Char)) = []) ∧
    (suggestions (t.look current) p limit : List (List Char)).length ≤ limit := by
  refine ⟨fun stem dir l h => ?_, fun h => suggestions_eq_nil h limit, ?_⟩
  · obtain ⟨es, hes, hsorted, hmem⟩ := h.exists_entries limit
    refine ⟨es, hes, hsorted, hmem, fun e he hlong => ?_⟩
    have hentry := ((hmem e).mp he).1
    have hname := hentry.entryName
    refine ⟨fun hlink => ?_, fun hlink =>
      find_suggested h.leads h.directory hname hentry hlink hlong⟩
    have hleads := leadsSomewhere_suggested h.leads h.directory hname hentry hlink hlong
    -- a suggestion that leads somewhere is not the path, which does not
    refine ⟨hleads, fun htext => ?_⟩
    rw [htext, hp] at hleads
    cases hleads
  · by_cases h : ∃ stem dir l, t.Neighbours current p stem dir l
    · obtain ⟨stem, dir, l, h⟩ := h
      obtain ⟨es, hes, -⟩ := h.exists_entries limit
      rw [hes, List.length_map]
      exact List.length_take_le limit es
    · rw [suggestions_eq_nil h]
      exact Nat.zero_le limit

/-! ## A link among the entries -/

/-- A directory `w` with a directory, a file, and a link that leads nowhere. -/
def stylesheets : FileTree :=
  (((empty.put [] ['w'] .directory).put [['w']] "Styles".toList .directory).put [['w']]
    "style.css".toList (.file (.text []))).put [['w']] "style.old".toList (.link ⟨"gone".toList⟩)

/-- For a name with a letter too many the directory and the file are suggested. -/
theorem suggestions_usable_stylesheets :
    stylesheets.leadsSomewhere [] ⟨"/w/style.csss".toList⟩ = false ∧
    stylesheets.Neighbours [] ⟨"/w/style.csss".toList⟩ "style".toList ⟨"/w".toList⟩ [['w']] ∧
    (suggestions (stylesheets.look []) ⟨"/w/style.csss".toList⟩ 2 : List (List Char)) =
      ["/w/Styles/".toList, "/w/style.css".toList] ∧
    stylesheets.find [] ⟨"/w/Styles/".toList⟩ = .ok ["Styles".toList, ['w']] ∧
    stylesheets.leadsSomewhere [] ⟨"/w/style.css".toList⟩ = true ∧
    (suggestions (stylesheets.look []) ⟨"/w/style.csss".toList⟩ 2 : List (List Char)).length ≤
      2 := by
  have hmissing : stylesheets.leadsSomewhere [] ⟨"/w/style.csss".toList⟩ = false := by cbv
  have hneighbours : stylesheets.Neighbours [] ⟨"/w/style.csss".toList⟩ "style".toList
      ⟨"/w".toList⟩ [['w']] := ⟨by cbv, by cbv, by cbv, by cbv, by decide⟩
  have hcss : stylesheets.at? ["style.css".toList, ['w']] = some (.file (.text [])) := by cbv
  have hdir : stylesheets.at? ["Styles".toList, ['w']] = some .directory := by cbv
  obtain ⟨hsome, -, hlength⟩ := suggestions_usable hmissing 2
  obtain ⟨es, hes, -, hmem, hentries⟩ := hsome _ _ _ hneighbours
  have hmemDir : ⟨"Styles".toList, true⟩ ∈ es :=
    (hmem _).mpr ⟨⟨_, hdir, rfl⟩, [], ['s'], by cbv⟩
  have hmemCss : ⟨"style.css".toList, false⟩ ∈ es :=
    (hmem _).mpr ⟨⟨_, hcss, rfl⟩, [], ".css".toList, by cbv⟩
  have hnoLink : stylesheets.NotDangling [] ⟨"/w".toList⟩ [['w']] ⟨"style.css".toList, false⟩ := by
    intro target h
    cases hcss.symm.trans h
  refine ⟨hmissing, hneighbours, by cbv, ?_, ?_, hlength⟩
  · refine (hentries _ hmemDir (by decide)).2 fun target h => ?_
    cases hdir.symm.trans h
  · exact ((hentries _ hmemCss (by decide)).1 hnoLink).1

/-- A link that leads nowhere is suggested for itself. -/
theorem suggestions_dangling :
    stylesheets.leadsSomewhere [] ⟨"/w/style.old".toList⟩ = false ∧
    (suggestions (stylesheets.look []) ⟨"/w/style.old".toList⟩ 5 : List (List Char)) =
      ["/w/Styles/".toList, "/w/style.css".toList, "/w/style.old".toList] :=
  ⟨by cbv, by cbv⟩

end FileTree
end Remap
