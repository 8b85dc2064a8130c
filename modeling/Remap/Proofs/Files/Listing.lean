import Mathlib
import Remap.Files.Listing
import Remap.Proofs.Path.Prefix
import Remap.Proofs.Text.First
/-!
# What a listing shows

The entries of a directory stand in a strict order, so that sorting them gives the same list in
whatever order they come. A listing shows those entries whose text contains the term without regard
to case, each of them once, because the last step of what it shows is the name of the entry.

Main statement: `FileTree.listDirectory_complete`.
-/

namespace Remap

open Remap.Path (Step)

/-! ## The order of entries -/

theorem compare_chars_lt {a b : List Char} : compare a b = .lt ↔ a < b := by
  rw [List.compare_eq_compareLex]
  induction a generalizing b with
  | nil => cases b <;> simp [List.compareLex_nil_nil, List.compareLex_nil_cons]
  | cons x xs ih =>
    cases b with
    | nil => simp [List.compareLex_cons_nil]
    | cons y ys =>
      rw [List.compareLex_cons_cons, Ordering.then_eq_lt, List.cons_lt_cons_iff, ih,
        Std.LawfulEqCmp.compare_eq_iff_eq]
      have hchar : compare x y = .lt ↔ x < y := by
        show compareOfLessAndEq x y = .lt ↔ x < y
        exact compareOfLessAndEq_eq_lt
      rw [hchar]

namespace Listed

/-- Whether `a` is listed before `b`: directories first, and then by name without regard to case,
and by the name itself between names that differ only in case. -/
def Precedes (a b : Listed) : Prop :=
  (a.isDirectory = true ∧ b.isDirectory = false) ∨
    (a.isDirectory = b.isDirectory ∧
      (Unicode.lowercase a.name < Unicode.lowercase b.name ∨
        (Unicode.lowercase a.name = Unicode.lowercase b.name ∧ a.name < b.name)))

variable {a b c : Listed}

instance : Std.TransCmp compareNames :=
  inferInstanceAs (Std.TransCmp (compareLex (compareOn Unicode.lowercase) compare))

instance : Std.LawfulEqCmp compareNames where
  eq_of_compare h := by
    rw [compareNames, Ordering.then_eq_eq] at h
    exact Std.LawfulEqCmp.eq_of_compare h.2

theorem compareNames_eq_lt {m n : List Char} :
    compareNames m n = .lt ↔ Unicode.lowercase m < Unicode.lowercase n ∨
      (Unicode.lowercase m = Unicode.lowercase n ∧ m < n) := by
  rw [compareNames, Ordering.then_eq_lt, compare_chars_lt, compare_chars_lt,
    Std.LawfulEqCmp.compare_eq_iff_eq]

theorem before_iff : before a b = true ↔ a = b ∨ Precedes a b := by
  obtain ⟨m, d⟩ := a
  obtain ⟨n, e⟩ := b
  rw [before, Precedes, ← compareNames_eq_lt]
  by_cases hd : d = e
  · subst hd
    have hcmp : compareNames m n = .eq ↔ m = n := Std.LawfulEqCmp.compare_eq_iff_eq
    simp [Ordering.isLE_iff_eq_lt_or_eq_eq, hcmp, or_comm]
  · cases d <;> cases e <;> simp at hd ⊢

theorem before_total (a b : Listed) : (before a b || before b a) = true := by
  obtain ⟨m, d⟩ := a
  obtain ⟨n, e⟩ := b
  have hnames : ((compareNames m n).isLE || (compareNames n m).isLE) = true := by
    have hswap : compareNames n m = (compareNames m n).swap := Std.OrientedCmp.eq_swap
    rw [hswap]
    cases compareNames m n <;> rfl
  cases d <;> cases e
  · exact hnames
  · rfl
  · rfl
  · exact hnames

theorem before_trans (a b c : Listed) (hab : before a b = true) (hbc : before b c = true) :
    before a c = true := by
  obtain ⟨m, d⟩ := a
  obtain ⟨n, e⟩ := b
  obtain ⟨o, f⟩ := c
  -- entries of one kind are ordered by their names, and between the kinds the kind decides
  cases d <;> cases e <;> cases f
  all_goals
    first
    | exact Std.TransCmp.isLE_trans hab hbc
    | rfl
    | exact absurd hab Bool.false_ne_true
    | exact absurd hbc Bool.false_ne_true

theorem not_precedes_self (a : Listed) : ¬ Precedes a a := by
  rintro (⟨h, h'⟩ | ⟨-, h⟩)
  · rw [h] at h'
    cases h'
  · exact h.elim (List.lt_irrefl _) fun h => List.lt_irrefl _ h.2

theorem before_antisymm (hab : before a b = true) (hba : before b a = true) : a = b := by
  obtain ⟨m, d⟩ := a
  obtain ⟨n, e⟩ := b
  have hname (hmn : (compareNames m n).isLE = true) (hnm : (compareNames n m).isLE = true) :
      m = n := Std.LawfulEqCmp.eq_of_compare (Std.OrientedCmp.isLE_antisymm hmn hnm)
  cases d <;> cases e
  · rw [hname hab hba]
  · cases hab
  · cases hba
  · rw [hname hab hba]

/-! ## Sorting -/

variable {es fs : List Listed}

/-- Sorted, entries that are all different stand in a strict order. -/
theorem pairwise_precedes_mergeSort (h : es.Nodup) : (es.mergeSort before).Pairwise Precedes := by
  have hnodup : (es.mergeSort before).Nodup := (List.mergeSort_perm es before).nodup_iff.mpr h
  have hsorted := List.pairwise_mergeSort before_trans before_total es
  exact (hsorted.and hnodup).imp fun h => (before_iff.mp h.1).resolve_left h.2

/-- Sorted, entries stand in the same list in whatever order they come. -/
theorem mergeSort_eq_of_perm (h : es.Perm fs) : es.mergeSort before = fs.mergeSort before := by
  apply List.Perm.eq_of_pairwise (fun a b _ _ hab hba => before_antisymm hab hba)
    (List.pairwise_mergeSort before_trans before_total es)
    (List.pairwise_mergeSort before_trans before_total fs)
  exact (List.mergeSort_perm es before).trans (h.trans (List.mergeSort_perm fs before).symm)

end Listed

/-! ## The text of an entry -/

variable {dir root : Path} {name : List Char}

theorem EntryName.ne_nil (h : EntryName name) : name ≠ [] := by
  rintro rfl
  exact h.idle rfl

theorem EntryName.slash (h : EntryName name) : ∀ c ∈ name, (c == '/') = false :=
  fun _ hc => beq_false_of_ne fun hslash => h.noSlash (hslash ▸ hc)

theorem EntryName.isAbsolute (h : EntryName name) (tail : List Char) :
    (⟨name ++ tail⟩ : Path).isAbsolute = false := by
  obtain ⟨c, cs, rfl⟩ := List.exists_cons_of_ne_nil h.ne_nil
  simpa [Path.isAbsolute] using h.slash c List.mem_cons_self

theorem EntryName.stepOf (h : EntryName name) : Path.stepOf name = some (.name name) := by
  rw [Path.stepOf, if_neg h.idle, if_neg h.up]

theorem EntryName.stepsIn (h : EntryName name) : Path.stepsIn name = [.name name] := by
  rw [Path.stepsIn, Path.parts, Text.splitAt_of_forall h.slash, List.filterMap_cons, h.stepOf]
  rfl

theorem Path.steps_join_name (dir : Path) (h : EntryName name) :
    (dir.join ⟨name⟩).steps = dir.steps ++ [.name name] := by
  have ha : (⟨name⟩ : Path).isAbsolute = false := by simpa using h.isAbsolute []
  by_cases hd : dir.text = []
  · have hjoin : dir.join ⟨name⟩ = ⟨name⟩ := by simp [Path.join, hd]
    have hdir : dir.steps = [] := by
      obtain ⟨text⟩ := dir
      cases hd
      rfl
    rw [hjoin, hdir, Path.steps_part h.stepOf h.slash]
    rfl
  · rw [Path.steps_join hd ha, h.stepsIn]

namespace Listed

/-- The path `p` is what is left of the path of an entry behind `root`, if the entry lies there,
and all of it otherwise. -/
structure ShownBy (dir root : Path) (e : Listed) (p : Path) : Prop where
  below : root.steps <+: (dir.join ⟨e.name⟩).steps →
    (dir.join ⟨e.name⟩).steps = root.steps ++ p.steps
  elsewhere : ¬ root.steps <+: (dir.join ⟨e.name⟩).steps → p = dir.join ⟨e.name⟩

/-- An entry is shown by its path, with a slash behind it if it is a directory. -/
theorem shown_eq (dir root : Path) (e : Listed) :
    ∃ p, ShownBy dir root e p ∧
      shown dir root e = p.text ++ if e.isDirectory then ['/'] else [] := by
  cases h : (dir.join ⟨e.name⟩).stripPrefix? root with
  | some p =>
    have hsteps := Path.steps_of_stripPrefix? h
    refine ⟨p, ⟨fun _ => hsteps, fun hno => absurd ⟨p.steps, hsteps.symm⟩ hno⟩, ?_⟩
    rw [shown, h]
    rfl
  | none =>
    refine ⟨dir.join ⟨e.name⟩,
      ⟨fun hpre => absurd hpre (Path.not_prefix_of_stripPrefix? h), fun _ => rfl⟩, ?_⟩
    rw [shown, h]
    rfl

/-- The last step of what is shown of an entry is its name, unless the entry is the root itself. -/
theorem getLast?_steps_shown {e : Listed} (dir root : Path) (h : EntryName e.name) :
    (Path.steps ⟨shown dir root e⟩).getLast? = some (.name e.name) ∨
      (root.steps = dir.steps ++ [.name e.name] ∧
        ∀ n, (Path.steps ⟨shown dir root e⟩).getLast? ≠ some (.name n)) := by
  have hpath := Path.steps_join_name dir h
  obtain ⟨p, hp, htext⟩ := shown_eq dir root e
  have hsteps : p.text ≠ [] → Path.steps ⟨shown dir root e⟩ = p.steps := by
    intro hne
    rw [htext]
    split
    · exact Path.steps_slash p.text hne
    · rw [List.append_nil]
  -- below the root an entry is shown by the rest of its path, elsewhere by the whole
  by_cases hpre : root.steps <+: (dir.join ⟨e.name⟩).steps
  · have hbelow := hp.below hpre
    rw [hpath] at hbelow
    by_cases hne : p.text = []
    · -- nothing is left of the path, so that it is that of the root
      obtain ⟨text⟩ := p
      cases hne
      refine .inr ⟨by simpa [show Path.steps ⟨[]⟩ = [] from rfl] using hbelow.symm, ?_⟩
      intro n
      rw [htext]
      split <;> simp [show Path.steps ⟨[]⟩ = [] from rfl, show Path.steps ⟨['/']⟩ = [.top] from rfl]
    · left
      obtain ⟨front, last, hlast⟩ :=
        (List.eq_nil_or_concat p.steps).resolve_left (Path.steps_ne_nil hne)
      rw [List.concat_eq_append] at hlast
      rw [hlast, ← List.append_assoc] at hbelow
      obtain ⟨-, hname⟩ := List.append_inj' hbelow rfl
      rw [hsteps hne, hlast, ← hname, List.getLast?_concat]
  · left
    obtain rfl := hp.elsewhere hpre
    have hne : (dir.join ⟨e.name⟩).text ≠ [] := by
      intro ht
      have hnil : (dir.join ⟨e.name⟩).steps = [] := by
        rw [show dir.join ⟨e.name⟩ = ⟨[]⟩ from congrArg Path.mk ht]
        rfl
      simp [hnil] at hpath
    rw [hsteps hne, hpath, List.getLast?_concat]

/-- What is shown of an entry says its name. -/
theorem name_eq_of_shown_eq {a b : Listed} (ha : EntryName a.name) (hb : EntryName b.name)
    (h : shown dir root a = shown dir root b) : a.name = b.name := by
  rcases getLast?_steps_shown dir root ha with hla | ⟨hra, hna⟩
  · rcases getLast?_steps_shown dir root hb with hlb | ⟨-, hnb⟩
    · rw [h, hlb] at hla
      exact (Step.name.inj (Option.some.inj hla)).symm
    · exact absurd (h ▸ hla) (hnb a.name)
  · rcases getLast?_steps_shown dir root hb with hlb | ⟨hrb, -⟩
    · exact absurd (h ▸ hlb) (hna b.name)
    · obtain ⟨-, hname⟩ := List.append_inj' (hra.symm.trans hrb) rfl
      exact Step.name.inj (List.cons.inj hname).1

end Listed

/-! ## What is listed -/

theorem mentions_iff {term text : List Char} :
    mentions term text = true ↔ Unicode.lowercase term <:+: Unicode.lowercase text := by
  rw [mentions, Text.contains]
  constructor
  · intro h
    obtain ⟨⟨b, a⟩, hcut⟩ := Option.isSome_iff_exists.mp h
    exact ⟨b, a, (Text.eq_of_cutFirst hcut).symm⟩
  · intro h
    obtain ⟨b, a, hcut⟩ := Text.isSome_cutFirst h
    rw [hcut]
    rfl

variable {dir root : Path} {term : List Char} {entries : List Listed}

/-- The entries that a listing shows. -/
theorem listing_eq (term : List Char) (dir root : Path) (entries : List Listed) :
    listing term dir root entries =
      ((entries.mergeSort Listed.before).filter (mentions term ∘ Listed.shown dir root)).map
        (Listed.shown dir root) :=
  List.filter_map

theorem listDirectory_of_not_dash {look : Look Id} (h : isDash dir = false) :
    (listDirectory look term dir root : List (List Char)) =
      listing term dir root (look.list dir) := by
  rw [listDirectory, h]
  rfl

namespace FileTree

variable {t : FileTree} {current l : Location} {look : Look Id}

/-- The entry `e` stands in the directory at `l`. -/
def Contains (t : FileTree) (l : Location) (e : Listed) : Prop :=
  ∃ node, t.at? (e.name :: l) = some node ∧ e.isDirectory = decide (node = .directory)

/-- Entries of one name in one directory are the same. -/
theorem Contains.eq {a b : Listed} (ha : t.Contains l a) (hb : t.Contains l b)
    (h : a.name = b.name) : a = b := by
  obtain ⟨m, d⟩ := a
  obtain ⟨n, e⟩ := b
  obtain ⟨node, hnode, hd⟩ := ha
  obtain ⟨node', hnode', he⟩ := hb
  cases h
  rw [hnode] at hnode'
  cases hnode'
  cases hd
  cases he
  rfl

theorem Contains.entryName {e : Listed} (h : t.Contains l e) : EntryName e.name := by
  obtain ⟨node, hnode, -⟩ := h
  exact entryName_of_at? hnode

theorem mem_list {e : Listed} (h : t.find current dir = .ok l) :
    e ∈ t.list current dir ↔ t.Contains l e := by
  rw [list, h]
  constructor
  · intro he
    obtain ⟨⟨name, node⟩, hm, rfl⟩ := List.mem_map.mp he
    exact ⟨node, mem_children.mp hm, rfl⟩
  · rintro ⟨node, hn, hd⟩
    obtain ⟨name, d⟩ := e
    cases hd
    exact List.mem_map.mpr ⟨(name, node), mem_children.mpr hn, rfl⟩

theorem nodup_list (h : t.find current dir = .ok l) : (t.list current dir).Nodup := by
  rw [list, h]
  have hnames := List.pairwise_map.mp (t.nodup_children l)
  exact List.pairwise_map.mpr (hnames.imp fun hne he => hne (congrArg Listed.name he))

/-- A listing of a directory shows the entries whose text contains the term without regard to case,
each of them once and in order, whatever the order in which they are delivered. -/
theorem listDirectory_complete (term : List Char) (root : Path) (hdash : isDash dir = false)
    (hl : t.find current dir = .ok l) (hlook : (look.list dir).Perm (t.list current dir)) :
    ∃ es : List Listed,
      (listDirectory look term dir root : List (List Char)) = es.map (Listed.shown dir root) ∧
      es.Pairwise Listed.Precedes ∧
      (∀ e, e ∈ es ↔ t.Contains l e ∧
        Unicode.lowercase term <:+: Unicode.lowercase (e.shown dir root)) ∧
      (∀ e, ∃ p, Listed.ShownBy dir root e p ∧
        e.shown dir root = p.text ++ if e.isDirectory then ['/'] else []) ∧
      (es.map (Listed.shown dir root)).Nodup ∧
      ∀ other : Look Id, (other.list dir).Perm (t.list current dir) →
        (listDirectory other term dir root : List (List Char)) =
          listDirectory look term dir root := by
  have hnodup : (look.list dir).Nodup := hlook.nodup_iff.mpr (nodup_list hl)
  have hsorted := Listed.pairwise_precedes_mergeSort hnodup
  have hmem : ∀ e, e ∈ ((look.list dir).mergeSort Listed.before).filter
      (mentions term ∘ Listed.shown dir root) ↔ t.Contains l e ∧
        Unicode.lowercase term <:+: Unicode.lowercase (e.shown dir root) := by
    intro e
    rw [List.mem_filter, List.mem_mergeSort, hlook.mem_iff, mem_list hl, Function.comp_apply,
      mentions_iff]
  refine ⟨_, ?_, hsorted.filter _, hmem, Listed.shown_eq dir root, ?_, ?_⟩
  · rw [listDirectory_of_not_dash hdash, listing_eq]
  · -- entries that are shown alike have one name, and no entry stands before itself
    refine List.pairwise_map.mpr ((hsorted.filter _).imp_of_mem ?_)
    intro a b ha hb hab hshown
    have ha := ((hmem a).mp ha).1
    have hb := ((hmem b).mp hb).1
    obtain rfl := ha.eq hb (Listed.name_eq_of_shown_eq ha.entryName hb.entryName hshown)
    exact Listed.not_precedes_self a hab
  · intro other hother
    have horder := Listed.mergeSort_eq_of_perm (hother.trans hlook.symm)
    rw [listDirectory_of_not_dash hdash, listDirectory_of_not_dash hdash, listing_eq, listing_eq,
      horder]

/-- A directory `w` with a directory, two files whose names differ in case, and a link. -/
def fourEntries : FileTree :=
  ((((empty.put [] ['w'] .directory).put [['w']] ['A'] .directory).put [['w']] ['a', 'b']
    (.file (.text []))).put [['w']] ['a', 'B'] (.file (.text []))).put [['w']] ['c']
    (.link ⟨['A']⟩)

/-- A look at four entries that delivers them from the last to the first. -/
def backward : Look Id :=
  { fourEntries.look [] with list := fun p => (fourEntries.list [] p).reverse }

/-- Four entries that are delivered from the last to the first are listed in order, each once, and
without the link whose name does not contain the term. -/
theorem listDirectory_complete_backward :
    isDash ⟨"/w".toList⟩ = false ∧
    fourEntries.find [] ⟨"/w".toList⟩ = .ok [['w']] ∧
    (backward.list ⟨"/w".toList⟩).Perm (fourEntries.list [] ⟨"/w".toList⟩) ∧
    ∃ es : List Listed,
      es.map (Listed.shown ⟨"/w".toList⟩ ⟨"/w".toList⟩) =
        ["A/".toList, "aB".toList, "ab".toList] ∧
      es.Pairwise Listed.Precedes ∧
      (∀ e, e ∈ es ↔ fourEntries.Contains [['w']] e ∧ Unicode.lowercase ['A'] <:+:
        Unicode.lowercase (e.shown ⟨"/w".toList⟩ ⟨"/w".toList⟩)) ∧
      (es.map (Listed.shown ⟨"/w".toList⟩ ⟨"/w".toList⟩)).Nodup ∧
      (listDirectory (fourEntries.look []) ['A'] ⟨"/w".toList⟩ ⟨"/w".toList⟩ :
        List (List Char)) = es.map (Listed.shown ⟨"/w".toList⟩ ⟨"/w".toList⟩) := by
  have hdash : isDash ⟨"/w".toList⟩ = false := by decide
  have hfind : fourEntries.find [] ⟨"/w".toList⟩ = .ok [['w']] := by cbv
  have hlook : (backward.list ⟨"/w".toList⟩).Perm (fourEntries.list [] ⟨"/w".toList⟩) :=
    List.reverse_perm _
  obtain ⟨es, hes, hsorted, hmem, -, hnodup, hother⟩ :=
    listDirectory_complete ['A'] ⟨"/w".toList⟩ hdash hfind hlook
  refine ⟨hdash, hfind, hlook, es, ?_, hsorted, hmem, hnodup, ?_⟩
  · rw [← hes]
    cbv
  · rw [← hes]
    exact hother _ (List.Perm.refl _)

/-- A directory whose name is a dash, with a file in it. -/
def dashed : FileTree :=
  (empty.put [] ['-'] .directory).put [['-']] ['a'] (.file (.text []))

/-- Nothing is listed of a directory that is given as a dash, whatever stands in it. -/
theorem listDirectory_dash_incomplete :
    dashed.find [] ⟨['-']⟩ = .ok [['-']] ∧
    dashed.at? [['-']] = some .directory ∧
    dashed.Contains [['-']] ⟨['a'], false⟩ ∧
    Unicode.lowercase ['a'] <:+: Unicode.lowercase (Listed.shown ⟨['-']⟩ ⟨['/']⟩ ⟨['a'], false⟩) ∧
    (listDirectory (dashed.look []) ['a'] ⟨['-']⟩ ⟨['/']⟩ : List (List Char)) = [] := by
  have hentry : dashed.at? [['a'], ['-']] = some (.file (.text [])) := by cbv
  exact ⟨by cbv, by cbv, ⟨_, hentry, rfl⟩, ⟨"-/".toList, [], by cbv⟩, by cbv⟩

end FileTree
end Remap
