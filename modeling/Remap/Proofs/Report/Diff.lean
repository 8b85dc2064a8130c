import Remap.Report.Diff
import Remap.Proofs.Diff.Patch
/-!
# Differences as a patch

Without colours the differences between two texts are hunks, with a line of three dots between each
two of them. They say how to come from the lines of the one text to those of the other, and there
are none between equal texts only.

Main statement: `diff_plain`.
-/

namespace Remap.Report

open Diff (Hunk Patch cutLines hasEnd)

theorem hasEnd_iff {line : List Char} : hasEnd line = true ↔ ['\n'] <:+ line ∨ ['\r'] <:+ line := by
  rcases List.eq_nil_or_concat line with rfl | ⟨front, c, rfl⟩
  · simp [hasEnd]
  · have hsuffix : ∀ d, [d] <:+ front ++ [c] ↔ d = c := by
      intro d
      constructor
      · rintro ⟨t, ht⟩
        exact (List.cons.inj (List.append_inj' ht rfl).2).1
      · rintro rfl
        exact List.suffix_append front [d]
    simp [hasEnd, hsuffix, or_comm, eq_comm (a := c)]

/-- The lines of a hunk, each behind its mark: a minus, a plus or a space. A line that ends in
neither a line feed nor a carriage return gets a line feed. -/
def printed (h : Hunk (List Char)) : List Char :=
  h.flatMap fun (tag, line) =>
    mark tag :: line ++ if ['\n'] <:+ line ∨ ['\r'] <:+ line then [] else ['\n']

theorem hunk_plain (h : Hunk (List Char)) : hunk .plain h = printed h := by
  unfold hunk printed
  congr 1
  funext ⟨tag, line⟩
  have hline : diffLine .plain tag line = markedLine tag line := by cases tag <;> rfl
  show diffLine .plain tag line = mark tag :: line ++ _
  rw [hline, markedLine]
  simp only [hasEnd_iff]

/-- A hunk that has a line is printed. -/
theorem printed_ne_nil {h : Hunk (List Char)} (hne : h ≠ []) : printed h ≠ [] := by
  obtain ⟨x, rest, rfl⟩ := List.exists_cons_of_ne_nil hne
  simp [printed]

/-- Joined texts are empty only if there are none, if none of them is empty itself. -/
theorem join_eq_nil_iff {sep : List Char} {ps : List (List Char)} (h : ∀ p ∈ ps, p ≠ []) :
    Text.join sep ps = [] ↔ ps = [] := by
  cases ps with
  | nil => simp [Text.join]
  | cons p ps =>
    have hp := h p List.mem_cons_self
    cases ps with
    | nil => simpa [Text.join] using hp
    | cons q ps => simp [Text.join, hp]

/-- The differences between two texts are printed hunks that lead from the lines of the one to those
of the other, and there are no differences exactly if the texts are equal. -/
theorem diff_plain (old new : List Char) :
    (∃ gap parts,
      diff .plain old new = Text.join "...\n".toList (parts.map fun p => printed p.1) ∧
      Patch 3 (cutLines old) (cutLines new) gap parts) ∧
    (diff .plain old new = [] ↔ old = new) := by
  obtain ⟨gap, parts, hmap, hpatch⟩ := Diff.patch_hunks 3 (cutLines old) (cutLines new)
  have hdiff : diff .plain old new = Text.join "...\n".toList (parts.map fun p => printed p.1) := by
    show Text.join _ ((Diff.hunks 3 (cutLines old) (cutLines new)).map (hunk .plain)) = _
    rw [← hmap, List.map_map]
    congr 2
    funext p
    exact hunk_plain p.1
  refine ⟨⟨gap, parts, hdiff, hpatch⟩, ?_⟩
  -- no printed hunk is empty, so an empty text means that there is no hunk
  have hprinted : ∀ p ∈ parts.map fun p => printed p.1, p ≠ [] := by
    intro text htext
    obtain ⟨p, hp, rfl⟩ := List.mem_map.mp htext
    obtain ⟨x, hx, -⟩ := (hpatch.tidy p hp).changes
    exact printed_ne_nil (List.ne_nil_of_mem hx)
  have hlines : cutLines old = cutLines new ↔ old = new := by
    refine ⟨fun h => ?_, congrArg cutLines⟩
    rw [← Diff.flatten_cutLines old, h, Diff.flatten_cutLines new]
  calc diff .plain old new = []
    _ ↔ parts = [] := by rw [hdiff, join_eq_nil_iff hprinted, List.map_eq_nil_iff]
    _ ↔ Diff.hunks 3 (cutLines old) (cutLines new) = [] := by rw [← hmap, List.map_eq_nil_iff]
    _ ↔ cutLines old = cutLines new := Diff.hunks_eq_nil_iff
    _ ↔ old = new := hlines

/-- Seven kept lines between two changes are one too many for a single hunk. -/
example : diff .plain "a\n1\n2\n3\n4\n5\n6\n7\nb".toList "A\n1\n2\n3\n4\n5\n6\n7\nb\n".toList =
    "-a\n+A\n 1\n 2\n 3\n...\n 5\n 6\n 7\n-b\n+b\n".toList := by
  cbv

end Remap.Report
