import Mathlib
import Remap.Files.Listing
import Remap.Proofs.Files.Strides
import Remap.Proofs.Path.Ancestor
/-!
# Searching below a directory

The directory in which a path typed in part is looked for has the steps of the root of the search
and some of the steps that were typed (`climb_steps`). It is the root or lies below it, unless what
was typed leads out: it is an absolute path, it goes up at the root, or it passes a link to
somewhere else. `Stays` says that the typed steps do none of this.

Main statement: `searchRoot_stays`.
-/

namespace Remap.FileTree

open Remap.Path (Step stepsIn)

variable {t : FileTree} {current place l r : Location} {links : Nat} {p root : Path}
  {ss : List Step}

/-! ## Climbing -/

theorem climb_eq (root p : Path) :
    (climb (t.look current) root p : Path) =
      if t.isDirectory current p then p
      else if p.same root then p
      else
        match p.parent? with
        | some above => (climb (t.look current) root above : Path)
        | none => root := by
  rw [climb]
  show (if t.isDirectory current p = true then _ else _ : Id Path) = _
  split
  · rfl
  · split
    · rfl
    · split
      next h => rw [h]
      next h => rw [h]; rfl

/-- Climbing from a path that has the steps of the root and some more ends at the root, or at a
directory that has still some of those steps. -/
theorem climb_steps (t : FileTree) (current : Location) (h : p.steps = root.steps ++ ss) :
    ∃ front, front <+: ss ∧
      (climb (t.look current) root p : Path).steps = root.steps ++ front ∧
      (front = [] ∨ t.isDirectory current (climb (t.look current) root p : Path) = true) := by
  induction p using climb.induct generalizing ss with
  | _ p ih =>
    rw [climb_eq]
    split
    next hd => exact ⟨ss, List.prefix_refl ss, h, .inr hd⟩
    next hd =>
      split
      next hs => exact ⟨[], List.nil_prefix, by simpa [Path.same] using hs, .inl rfl⟩
      next hs =>
        split
        next above ha =>
          obtain ⟨s, hsteps⟩ := Path.steps_of_parent? ha
          -- the path is not the root, so that the step that goes is not one of the root
          have hne : ss ≠ [] := by
            rintro rfl
            exact hs (by simpa [Path.same] using h)
          obtain ⟨most, last, rfl⟩ := (List.eq_nil_or_concat ss).resolve_left hne
          rw [hsteps, List.concat_eq_append, ← List.append_assoc] at h
          obtain ⟨habove, -⟩ := List.append_inj' h rfl
          obtain ⟨front, hf, hclimb⟩ := ih above ha habove
          refine ⟨front, hf.trans ?_, hclimb⟩
          rw [List.concat_eq_append]
          exact List.prefix_append most [last]
        next => exact ⟨[], List.nil_prefix, (List.append_nil _).symm, .inl rfl⟩

/-! ## Steps that stay below a directory -/

/-- A walk from `dir` along steps stays below `top`: it does not go up at `top`, and a link on its
way leads to a place below `top`, from where the walk stays there. -/
inductive Stays (t : FileTree) (top : Location) : Location → List Step → Prop
  | done {dir} : Stays t top dir []
  | up {dir rest} : dir ≠ top → Stays t top dir.tail rest → Stays t top dir (.up :: rest)
  | name {dir name rest} : (∀ target, t.at? (name :: dir) ≠ some (.link target)) →
      Stays t top (name :: dir) rest → Stays t top dir (.name name :: rest)
  | link {dir name target rest} : t.at? (name :: dir) = some (.link target) →
      (∀ left d, t.walk false left (if target.isAbsolute then [] else dir) target.trail =
        .ok (.entry d) → top <:+ d) →
      (∀ left d, t.walk false left (if target.isAbsolute then [] else dir) target.trail =
        .ok (.entry d) → Stays t top d rest) →
      Stays t top dir (.name name :: rest)

theorem Stays.of_prefix {front : List Step} (h : t.Stays r place ss) (hf : front <+: ss) :
    t.Stays r place front := by
  induction h generalizing front with
  | done =>
    rw [List.prefix_nil.mp hf]
    exact .done
  | up hne _ ih =>
    cases front with
    | nil => exact .done
    | cons s front =>
      obtain ⟨rfl, hrest⟩ := List.cons_prefix_cons.mp hf
      exact .up hne (ih hrest)
  | name hn _ ih =>
    cases front with
    | nil => exact .done
    | cons s front =>
      obtain ⟨rfl, hrest⟩ := List.cons_prefix_cons.mp hf
      exact .name hn (ih hrest)
  | link hl hb _ ih =>
    cases front with
    | nil => exact .done
    | cons s front =>
      obtain ⟨rfl, hrest⟩ := List.cons_prefix_cons.mp hf
      exact .link hl hb fun links d hd => ih links d hd hrest

/-- A walk goes on over a name to what stands there, or along a link. -/
theorem walk_name_cases {name : List Char} {rest : List (List Char)}
    (hn : Path.stepOf name = some (.name name))
    (h : t.walk false links place (name :: rest) = .ok (.entry l)) :
    (t.Solid (name :: place) ∧ t.walk false links (name :: place) rest = .ok (.entry l)) ∨
      ∃ target left, t.at? (name :: place) = some (.link target) ∧
        t.walk false left (if target.isAbsolute then [] else place) (target.trail ++ rest) =
          .ok (.entry l) := by
  have hi : ¬ Path.idle name = true := by
    intro hi
    rw [Path.stepOf, if_pos hi] at hn
    cases hn
  have hu : name ≠ ['.', '.'] := by
    rintro rfl
    cases hn
  have hd := (walk_cons h).1
  -- a free name ends a walk without an entry, so that what is left is a link or an entry to go on
  -- from
  rw [walk, if_neg (by simpa using hd), if_neg hi, if_neg hu, if_neg (by simp)] at h
  split at h
  · cases h
  split at h
  · split at h <;> cases h
  next target ht =>
    cases links with
    | zero => cases h
    | succ left => exact .inr ⟨target, left, ht, h⟩
  next node hnode hno => exact .inl ⟨⟨node, hno, hnode⟩, h⟩

/-- A walk that stays below a directory ends below it. -/
theorem Stays.ends_below (h : t.Stays r place ss) (hp : r <:+ place)
    (hn : ∀ name, .name name ∈ ss → Path.stepOf name = some (.name name))
    (hw : t.walk false links place (ss.filterMap Step.part?) = .ok (.entry l)) : r <:+ l := by
  induction h generalizing links with
  | done =>
    rw [List.filterMap_nil, walk_nil] at hw
    cases hw
    exact hp
  | @up dir rest hne _ ih =>
    have hw' : t.walk false links dir (['.', '.'] :: rest.filterMap Step.part?) =
      .ok (.entry l) := hw
    rw [walk_up (walk_cons hw').1] at hw'
    refine ih ?_ (fun name hm => hn name (List.mem_cons_of_mem _ hm)) hw'
    cases dir with
    | nil => exact absurd (List.suffix_nil.mp hp).symm hne
    | cons x xs => exact (List.suffix_cons_iff.mp hp).resolve_left (Ne.symm hne)
  | @name dir name rest hnone _ ih =>
    have hw' : t.walk false links dir (name :: rest.filterMap Step.part?) =
      .ok (.entry l) := hw
    rcases walk_name_cases (hn name List.mem_cons_self) hw' with ⟨-, hw⟩ | ⟨target, -, hl, -⟩
    · exact ih (hp.trans (List.suffix_cons name dir))
        (fun name hm => hn name (List.mem_cons_of_mem _ hm)) hw
    · exact absurd hl (hnone target)
  | @link dir name target rest hl hb _ ih =>
    have hw' : t.walk false links dir (name :: rest.filterMap Step.part?) =
      .ok (.entry l) := hw
    rcases walk_name_cases (hn name List.mem_cons_self) hw' with
      ⟨⟨node, hnode, hno⟩, -⟩ | ⟨_, k, hl', hw⟩
    · rw [hl] at hnode
      cases hnode
      exact absurd rfl (hno target)
    · rw [hl] at hl'
      cases hl'
      -- the walk along the target of the link comes to a place below, and goes on from there
      by_cases hrest : rest.filterMap Step.part? = []
      · rw [hrest, List.append_nil] at hw
        exact hb k l hw
      · obtain ⟨d, -, hd⟩ := walk_front hrest hw
        obtain ⟨k', hk⟩ := walk_append hd
        rw [hk] at hw
        exact ih k d hd (hb k d hd) (fun name hm => hn name (List.mem_cons_of_mem _ hm)) hw

/-! ## The root of a search -/

/-- The directory in which a typed path is looked for is the root of the search or lies below it,
if what was typed stays there. The only other thing that can be found is the root itself, written
with so many slashes and dots that no path may be as long. -/
theorem searchRoot_stays {typed : List Char} (hroot : t.find current root = .ok r)
    (hr : t.at? r = some .directory) (ha : (⟨typed⟩ : Path).isAbsolute = false)
    (hs : t.Stays r r (stepsIn typed)) :
    let q : Path := searchRoot (t.look current) typed root
    (∃ l, t.find current q = .ok l ∧ t.at? l = some .directory ∧ r <:+ l) ∨
      (q.same root = true ∧ maxPathBytes < byteCount q.text) := by
  intro q
  obtain ⟨start, hstart, -⟩ := find_eq_ok_iff.mp hroot
  have hne : root.text ≠ [] := by
    intro h
    simp [entrance, h] at hstart
  obtain ⟨front, hfront, hq, hend⟩ := climb_steps t current (Path.steps_join hne ha)
  have hq : q.steps = root.steps ++ front := hq
  -- the climb went back to the root, or stopped at a directory on the way
  rcases hend with rfl | hend
  · rw [List.append_nil] at hq
    rcases entrance_of_same hstart hq with ⟨start', he⟩ | hlong
    · obtain ⟨k, hk⟩ := find_iff_of_steps_append hroot hr (Path.steps_ne_nil hne) he
        (hq.trans (List.append_nil _).symm)
      exact .inl ⟨r, (hk r hr).mpr walk_nil, hr, List.suffix_refl r⟩
    · exact .inr ⟨by simpa [Path.same] using hq, hlong⟩
  · obtain ⟨l, hf, hl⟩ := isDirectory_iff.mp hend
    obtain ⟨start', he, -⟩ := find_eq_ok_iff.mp hf
    obtain ⟨k, hk⟩ := find_iff_of_steps_append hroot hr (Path.steps_ne_nil hne) he hq
    have hnames : ∀ name, .name name ∈ front → Path.stepOf name = some (.name name) :=
      fun name hm => Path.stepOf_of_mem_filterMap (hfront.subset hm)
    exact .inl ⟨l, hf, hl,
      (hs.of_prefix hfront).ends_below (List.suffix_refl r) hnames ((hk l hl).mp hf)⟩

/-- Two directories `w` and `e`, and in the first a directory and links to either. -/
def twoDirectories : FileTree :=
  ((((empty.put [] ['w'] .directory).put [] ['e'] .directory).put [['w']] ['a'] .directory).put
    [['w']] "in".toList (.link ⟨['a']⟩)).put [['w']] "out".toList (.link ⟨"../e".toList⟩)

/-- A link that leads below the root and two dots behind it stay below the root. -/
theorem searchRoot_stays_link_up :
    twoDirectories.find [] ⟨"/w".toList⟩ = .ok [['w']] ∧
    twoDirectories.at? [['w']] = some .directory ∧
    twoDirectories.Stays [['w']] [['w']] (stepsIn "in/../a".toList) ∧
    (∃ l, twoDirectories.find []
        (searchRoot (twoDirectories.look []) "in/../a".toList ⟨"/w".toList⟩ : Path) = .ok l ∧
      twoDirectories.at? l = some .directory ∧ [['w']] <:+ l) := by
  have hw : twoDirectories.at? [['w']] = some .directory := by cbv
  have ha : twoDirectories.at? [['a'], ['w']] = some .directory := by cbv
  have hfollow : ∀ left d, twoDirectories.walk false left [['w']] [['a']] = .ok (.entry d) →
      d = [['a'], ['w']] := by
    intro left d h
    have hname : IsName ['a'] := ⟨by decide, by decide, by decide⟩
    rw [walk_solid hw hname ⟨.directory, ha, by simp⟩, walk_nil] at h
    cases h
    rfl
  -- behind the link `in` stands `a`, so the two dots lead to `w` and not out of it
  have hlast : twoDirectories.Stays [['w']] [['a'], ['w']] [.up, .name ['a']] := by
    refine .up (by decide) (.name ?_ .done)
    intro target
    rw [List.tail_cons, ha]
    simp
  have hs : twoDirectories.Stays [['w']] [['w']] (stepsIn "in/../a".toList) := by
    refine .link (by cbv) (fun left d h => ?_) (fun left d h => ?_)
    · rw [hfollow left d h]
      exact List.suffix_cons ['a'] [['w']]
    · rw [hfollow left d h]
      exact hlast
  have hroot : twoDirectories.find [] ⟨"/w".toList⟩ = .ok [['w']] := by cbv
  have hrelative : (⟨"in/../a".toList⟩ : Path).isAbsolute = false := by decide
  refine ⟨hroot, hw, hs, (searchRoot_stays hroot hw hrelative hs).resolve_right ?_⟩
  have hq : (searchRoot (twoDirectories.look []) "in/../a".toList ⟨"/w".toList⟩ : Path) =
      ⟨"/w/in/../a".toList⟩ := by cbv
  rw [hq]
  decide

/-- An absolute path, two dots and a link lead out of the root of a search. -/
theorem searchRoot_leaves :
    twoDirectories.find [] ⟨"/w".toList⟩ = .ok [['w']] ∧
    twoDirectories.at? [['w']] = some .directory ∧
    ∀ typed ∈ ["/e".toList, "../e".toList, "out".toList],
      twoDirectories.find [] (searchRoot (twoDirectories.look []) typed ⟨"/w".toList⟩ : Path) =
        .ok [['e']] ∧ ¬ [['w']] <:+ [['e']] := by
  refine ⟨by cbv, by cbv, ?_⟩
  intro typed h
  simp only [List.mem_cons, List.not_mem_nil, or_false] at h
  rcases h with rfl | rfl | rfl
  · exact ⟨by cbv, by decide⟩
  · exact ⟨by cbv, by decide⟩
  · exact ⟨by cbv, by decide⟩

end Remap.FileTree
