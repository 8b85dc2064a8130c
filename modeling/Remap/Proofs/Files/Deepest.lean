import Remap.Proofs.Files.Climbing
import Remap.Proofs.Path.Place
/-!
# The deepest directory on the way up

The search for a path typed in part goes up from parent to parent until it comes to a directory or to
the root of the search. `Ascends` counts the rounds: there are no more of them than the path has
steps, and all paths that were left behind lead to no directory.

What the search ends at is a directory, except that no call can resolve a path that is too long: the
root itself can be written so, or the top, from where there is no way up.

Main statements: `exists_ascends` and `searchRoot_deepest`.
-/

namespace Remap

namespace Path

variable {p q root : Path}

/-- The first path is the second, or above it. -/
def AtOrAbove (q p : Path) : Prop := q = p ∨ q.Above p

/-! ## Steps of the paths above a path -/

theorem length_steps_of_above (h : q.Above p) : q.steps.length < p.steps.length := by
  induction h with
  | parent hp =>
    obtain ⟨s, hs⟩ := steps_of_parent? hp
    rw [hs, List.length_append]
    exact Nat.lt_succ_self _
  | up hr _ ih =>
    obtain ⟨s, hs⟩ := steps_of_parent? hr
    rw [hs, List.length_append]
    exact Nat.lt_succ_of_lt ih

theorem length_steps_of_atOrAbove (h : q.AtOrAbove p) : q.steps.length ≤ p.steps.length := by
  rcases h with rfl | h
  · exact Nat.le_refl _
  · exact Nat.le_of_lt (length_steps_of_above h)

theorem isAbsolute_of_atOrAbove (ha : p.isAbsolute = true) (h : q.AtOrAbove p) :
    q.isAbsolute = true := by
  rcases h with rfl | h
  · exact ha
  · exact (rooted_of_above ha h).absolute

/-! ## The top -/

/-- The one absolute path without a parent is the top, however it is written. -/
theorem parent?_eq_none_iff (ha : p.isAbsolute = true) : p.parent? = none ↔ p.steps = [.top] := by
  constructor
  · intro h
    obtain ⟨htop, hnames⟩ := isAbsolute_cut ha
    have hidle : ∀ x ∈ p.cut.2, idle x = true := by
      intro x hx
      by_cases hnil : x = []
      · rw [hnil]
        rfl
      · exact idle_of_parent?_eq_none ha h x (by rw [hnames]; simp [hx, hnil])
    rw [steps, htop, filterMap_stepOf_of_idle hidle]
    rfl
  · intro hs
    cases h : p.parent? with
    | none => rfl
    | some q =>
      -- the parent would be absolute without having a step
      obtain ⟨s, hsteps⟩ := steps_of_parent? h
      have hq := isAbsolute_iff_head?_steps.mp (rooted_parent? ha h).1.absolute
      rw [hs] at hsteps
      cases hqs : q.steps with
      | nil =>
        rw [hqs] at hq
        cases hq
      | cons r rs =>
        rw [hqs] at hsteps
        simp at hsteps

/-- As a parent the top is written as a single slash. -/
theorem text_of_parent?_top (ha : p.isAbsolute = true) (h : p.parent? = some q)
    (hq : q.steps = [.top]) : q = ⟨['/']⟩ := by
  have htop := (isAbsolute_cut ha).1
  rcases cut_of_parent? h with ⟨front, gap, last, back, hc, hf, -, -, -, ht⟩ | ⟨-, hs⟩
  · have hsteps := steps_of_front hc hf
    rw [← ht, htop] at hsteps
    rcases List.eq_nil_or_concat front with rfl | ⟨xs, x, rfl⟩
    · obtain ⟨text⟩ := q
      exact congrArg Path.mk (ht.trans (by rw [htop]; rfl))
    · rw [List.concat_eq_append] at hf hsteps
      obtain ⟨s, hs, -⟩ := stepOf_of_not_idle (hf x (by simp))
      have hlength := congrArg List.length (hq.symm.trans hsteps)
      simp [hs] at hlength
  · rw [isAbsolute_iff_head?_steps, hs] at ha
    cases ha

theorem stepsIn_slash_cons (text : List Char) : stepsIn ('/' :: text) = stepsIn text :=
  stepsIn_append_slash [] text

theorem stepsIn_dot_slash_cons (text : List Char) : stepsIn ('.' :: '/' :: text) = stepsIn text :=
  stepsIn_append_slash ['.'] text

end Path

namespace FileTree

open Remap.Path (Step stepsIn)

variable {t : FileTree} {current : Location} {p q root : Path} {n : Nat}

/-! ## Rounds on the way up -/

/-- The way up from the first path comes to its end at the second after some rounds. -/
inductive Ascends (t : FileTree) (current : Location) (root : Path) : Nat → Path → Path → Prop
  | directory {p : Path} : t.isDirectory current p = true → Ascends t current root 0 p p
  | root {p : Path} : t.isDirectory current p = false → p.same root = true →
      Ascends t current root 0 p p
  /-- There is no way up. -/
  | top {p : Path} : t.isDirectory current p = false → p.same root = false → p.parent? = none →
      Ascends t current root 0 p root
  | up {n : Nat} {p above q : Path} : t.isDirectory current p = false → p.same root = false →
      p.parent? = some above → Ascends t current root n above q → Ascends t current root (n + 1) p q

/-- The way up comes to an end after as many rounds as a path has steps, or before. -/
theorem exists_ascends (t : FileTree) (current : Location) (root p : Path) :
    ∃ n, n ≤ p.steps.length ∧
      t.Ascends current root n p (climb (t.look current) root p : Path) := by
  -- the three ways to stop are tried in the order of the climb
  induction p using climb.induct with
  | _ p ih =>
    rw [climb_eq]
    cases hd : t.isDirectory current p with
    | true => exact ⟨0, Nat.zero_le _, .directory hd⟩
    | false =>
      rw [if_neg (by decide)]
      cases hs : p.same root with
      | true => exact ⟨0, Nat.zero_le _, .root hd hs⟩
      | false =>
        rw [if_neg (by decide)]
        split
        next above ha =>
          obtain ⟨n, hn, hup⟩ := ih above ha
          obtain ⟨s, hsteps⟩ := Path.steps_of_parent? ha
          refine ⟨n + 1, ?_, .up hd hs ha hup⟩
          rw [hsteps, List.length_append]
          exact Nat.succ_le_succ hn
        next ha => exact ⟨0, Nat.zero_le _, .top hd hs ha⟩

/-- What was left behind on the way up is no directory. -/
theorem Ascends.not_isDirectory (h : t.Ascends current root n p q) {a : Path}
    (ha : a.AtOrAbove p) (hl : q.steps.length < a.steps.length) :
    t.isDirectory current a = false := by
  induction h with
  | directory => exact absurd hl (Nat.not_lt.mpr (Path.length_steps_of_atOrAbove ha))
  | root => exact absurd hl (Nat.not_lt.mpr (Path.length_steps_of_atOrAbove ha))
  | top hd _ hp =>
    rcases ha with rfl | ha
    · exact hd
    · exact absurd ha (Path.not_above hp)
  | up hd _ hp _ ih =>
    rcases ha with rfl | ha
    · exact hd
    · exact ih ((Path.above_iff hp).mp ha) hl

/-- The way up ends at a directory or at the root of the search; the latter, if there is no way up
from a path that is no directory. -/
theorem Ascends.ends (h : t.Ascends current root n p q) :
    (q.AtOrAbove p ∧ (t.isDirectory current q = true ∨ q.same root = true)) ∨
      q = root ∧ ∃ a : Path, a.AtOrAbove p ∧ a.parent? = none ∧ t.isDirectory current a = false := by
  induction h with
  | directory hd => exact .inl ⟨.inl rfl, .inl hd⟩
  | root _ hs => exact .inl ⟨.inl rfl, .inr hs⟩
  | @top p hd _ hp => exact .inr ⟨rfl, p, .inl rfl, hp, hd⟩
  | up _ _ hp _ ih =>
    have hbelow : ∀ {a : Path}, a.AtOrAbove _ → a.AtOrAbove _ := fun ha =>
      .inr ((Path.above_iff hp).mpr ha)
    rcases ih with ⟨hq, hend⟩ | ⟨hq, a, ha, hend⟩
    · exact .inl ⟨hbelow hq, hend⟩
    · exact .inr ⟨hq, a, hbelow ha, hend⟩

/-! ## Paths that are too long -/

/-- What has the steps of a directory is that directory, unless it is too long. -/
theorem isDirectory_of_same (hroot : t.isDirectory current root = true)
    (h : q.steps = root.steps) :
    t.isDirectory current q = true ∨ maxPathBytes < byteCount q.text := by
  obtain ⟨r, hfind, hr⟩ := isDirectory_iff.mp hroot
  obtain ⟨start, hstart, -⟩ := find_eq_ok_iff.mp hfind
  have hne : root.text ≠ [] := by
    intro h
    simp [entrance, h] at hstart
  rcases entrance_of_same hstart h with ⟨start', he⟩ | hlong
  · obtain ⟨k, hk⟩ := find_iff_of_steps_append hfind hr (Path.steps_ne_nil hne) he
      (h.trans (List.append_nil _).symm)
    exact .inl (isDirectory_iff.mpr ⟨r, (hk r hr).mpr walk_nil, hr⟩)
  · exact .inr hlong

theorem isDirectory_of_length (h : maxPathBytes < p.text.length) :
    t.isDirectory current p = false := by
  cases hd : t.isDirectory current p with
  | false => rfl
  | true =>
    obtain ⟨l, hfind, -⟩ := isDirectory_iff.mp hd
    obtain ⟨start, hstart, -⟩ := find_eq_ok_iff.mp hfind
    have hlong := Nat.lt_of_lt_of_le h (length_le_byteCount p.text)
    unfold entrance at hstart
    rw [if_pos hlong] at hstart
    repeat' split at hstart
    all_goals cases hstart

theorem isDirectory_top (t : FileTree) (current : Location) :
    t.isDirectory current ⟨['/']⟩ = true :=
  isDirectory_iff.mpr ⟨[], find_eq_ok_iff.mpr ⟨[], rfl, walk_nil⟩, rfl⟩

/-- An absolute path from which there is no way up is the top, and as such a directory, unless it is
too long. As a parent it is never too long. -/
theorem too_long_of_top (ha : p.isAbsolute = true) {a : Path} (h : a.AtOrAbove p)
    (hp : a.parent? = none) (hd : t.isDirectory current a = false) :
    p.steps = [.top] ∧ maxPathBytes < byteCount p.text := by
  have htop : a.steps = [.top] :=
    (Path.parent?_eq_none_iff (Path.isAbsolute_of_atOrAbove ha h)).mp hp
  rcases h with rfl | h
  · refine ⟨htop, (isDirectory_of_same (isDirectory_top t current) htop).resolve_left ?_⟩
    rw [hd]
    decide
  · have hslash : a = ⟨['/']⟩ := by
      clear hp hd
      induction h with
      | parent hq => exact Path.text_of_parent?_top ha hq htop
      | up hr _ ih => exact ih (Path.rooted_parent? ha hr).1.absolute
    rw [hslash, isDirectory_top] at hd
    cases hd

/-! ## The end of a search -/

/-- A search for a path typed in part below an absolute directory comes to an end, and ends at the
deepest directory among that path and the ones above it. Only paths that are too long to be resolved
are left out: the root of the search when it is written so, and the top, for which the root of the
search is found. -/
theorem searchRoot_deepest (typed : List Char) (ha : root.isAbsolute = true)
    (hroot : t.isDirectory current root = true) :
    let p := root.join ⟨typed⟩
    let q : Path := searchRoot (t.look current) typed root
    (∃ n, n ≤ p.steps.length ∧ t.Ascends current root n p q) ∧
      (∀ a : Path, a.AtOrAbove p → q.steps.length < a.steps.length →
        t.isDirectory current a = false) ∧
      (q.AtOrAbove p ∧ t.isDirectory current q = true ∨
        q.AtOrAbove p ∧ q.same root = true ∧ maxPathBytes < byteCount q.text ∨
        q = root ∧ p.steps = [.top] ∧ maxPathBytes < byteCount p.text) := by
  intro p q
  obtain ⟨n, hn, hup⟩ := exists_ascends t current root p
  refine ⟨⟨n, hn, hup⟩, fun a => hup.not_isDirectory, ?_⟩
  -- a path with the steps of the root leads where the root does, unless it is too long to be walked
  rcases hup.ends with ⟨hq, hd | hs⟩ | ⟨hq, a, habove, hp, hd⟩
  · exact .inl ⟨hq, hd⟩
  · have hsteps : q.steps = root.steps := eq_of_beq hs
    rcases isDirectory_of_same hroot hsteps with hd | hlong
    · exact .inl ⟨hq, hd⟩
    · exact .inr (.inl ⟨hq, hs, hlong⟩)
  · exact .inr (.inr ⟨hq, too_long_of_top (Path.isAbsolute_join ha) habove hp hd⟩)

/-- A link to a directory is the deepest directory of a path that goes on behind it with a name that
is free. -/
theorem searchRoot_deepest_link :
    let root : Path := ⟨"/w".toList⟩
    let p : Path := ⟨"/w/in/x/../y".toList⟩
    let q : Path := ⟨"/w/in".toList⟩
    root.isAbsolute = true ∧ twoDirectories.isDirectory [] root = true ∧
      (searchRoot (twoDirectories.look []) "in/x/../y".toList root : Path) = q ∧
      q.AtOrAbove p ∧ twoDirectories.isDirectory [] q = true ∧
      ∀ a : Path, a.AtOrAbove p → q.steps.length < a.steps.length →
        twoDirectories.isDirectory [] a = false := by
  intro root p q
  have ha : root.isAbsolute = true := by decide
  have hroot : twoDirectories.isDirectory [] root = true := by cbv
  have hjoin : root.join ⟨"in/x/../y".toList⟩ = p := by decide
  have hq : (searchRoot (twoDirectories.look []) "in/x/../y".toList root : Path) = q := by cbv
  obtain ⟨-, hpassed, hend⟩ := searchRoot_deepest "in/x/../y".toList ha hroot
  rw [hq, hjoin] at hpassed hend
  rcases hend with ⟨habove, hd⟩ | ⟨-, -, hlong⟩ | ⟨hroot', -⟩
  · exact ⟨ha, hroot, hq, habove, hd, hpassed⟩
  · exact absurd hlong (by decide)
  · exact absurd hroot' (by decide)

theorem stepsIn_replicate (n : Nat) : stepsIn (List.replicate n '/') = [] := by
  induction n with
  | zero => rfl
  | succ n ih => rw [List.replicate_succ, Path.stepsIn_slash_cons, ih]

theorem stepsIn_dots (n : Nat) : stepsIn (List.replicate n ['.', '/']).flatten = [] := by
  induction n with
  | zero => rfl
  | succ n ih =>
    rw [List.replicate_succ, List.flatten_cons]
    exact (Path.stepsIn_dot_slash_cons _).trans ih

theorem length_dots (n : Nat) : (List.replicate n ['.', '/']).flatten.length = 2 * n := by
  induction n with
  | zero => rfl
  | succ n ih =>
    rw [List.replicate_succ, List.flatten_cons, List.length_append, ih, Nat.mul_succ, Nat.add_comm]
    rfl

/-- If the top is typed with too many slashes, the root of the search is found, which is not above
it; and if only dots and slashes are typed, too many of them, what is found is no directory. -/
theorem searchRoot_too_long :
    let root : Path := ⟨"/w".toList⟩
    let slashes := List.replicate 4096 '/'
    let dots := (List.replicate 2048 ['.', '/']).flatten
    root.isAbsolute = true ∧ twoDirectories.isDirectory [] root = true ∧
      ¬ Path.AtOrAbove (searchRoot (twoDirectories.look []) slashes root : Path)
        (root.join ⟨slashes⟩) ∧
      twoDirectories.isDirectory []
        (searchRoot (twoDirectories.look []) dots root : Path) = false := by
  intro root slashes dots
  -- the texts are too long to be evaluated, so both climbs are taken step by step
  refine ⟨by decide, by cbv, ?_, ?_⟩
  · have hjoin : root.join ⟨slashes⟩ = ⟨slashes⟩ := rfl
    have hsteps : (⟨slashes⟩ : Path).steps = [.top] :=
      congrArg (Step.top :: ·) (stepsIn_replicate 4095)
    have hp : (⟨slashes⟩ : Path).parent? = none := (Path.parent?_eq_none_iff rfl).mpr hsteps
    have hsame : (⟨slashes⟩ : Path).same root = false := by
      rw [Path.same, hsteps]
      decide
    have hlength : slashes.length = 4096 := List.length_replicate
    have hd : twoDirectories.isDirectory [] ⟨slashes⟩ = false :=
      isDirectory_of_length (hlength ▸ by decide)
    have hq : (searchRoot (twoDirectories.look []) slashes root : Path) = root := by
      show (climb (twoDirectories.look []) root (root.join ⟨slashes⟩) : Path) = root
      rw [hjoin, climb_eq, hd, hsame, hp]
      rfl
    rw [hq, hjoin]
    rintro (h | h)
    · have hone := congrArg (fun p : Path => p.text.length) h
      exact absurd (hone.trans hlength) (by decide)
    · exact Path.not_above hp h
  · have hsteps : (root.join ⟨dots⟩).steps = root.steps := by
      rw [Path.steps_join (by decide) rfl, stepsIn_dots, List.append_nil]
    have hsame : (root.join ⟨dots⟩).same root = true := by
      rw [Path.same, hsteps]
      decide
    have hd : twoDirectories.isDirectory [] (root.join ⟨dots⟩) = false := by
      refine isDirectory_of_length ?_
      have hdots : dots.length = 4096 := length_dots 2048
      have hjoin : (root.join ⟨dots⟩).text = "/w/".toList ++ dots := rfl
      rw [hjoin, List.length_append, hdots]
      decide
    have hq : (searchRoot (twoDirectories.look []) dots root : Path) = root.join ⟨dots⟩ := by
      show (climb (twoDirectories.look []) root (root.join ⟨dots⟩) : Path) = _
      rw [climb_eq, hd, hsame]
      rfl
    rw [hq, hd]

end FileTree
end Remap
