import Mathlib
import Remap.Proofs.Report.Diff
import Remap.Proofs.Report.Frame
/-!
# Reports without their colours

A colour is a pair of escape sequences around a part of a report. If there is no escape in what is
reported, then a report in colours has the same characters in the same order as the report without
them, and sequences in between: removing the sequences gives the one from the other.

Main statement: `uncoloured_report`.
-/

namespace Remap.Report

open Diff (Hunk Tag)

/-! ## Removing escape sequences -/

/-- A text without its escape sequences, each of which goes from an escape and a bracket to the next
`m`. Where no `m` follows there is no sequence. -/
def uncoloured : List Char → List Char
  | [] => []
  | '\x1b' :: '[' :: rest =>
    match _h : Text.cutFirst ['m'] rest with
    | some (_, behind) => uncoloured behind
    | none => '\x1b' :: '[' :: rest
  | c :: rest => c :: uncoloured rest
termination_by cs => cs.length
decreasing_by
  · have := Text.length_after_lt (List.cons_ne_nil 'm' []) _h
    simp only [List.length_cons]
    omega
  · exact Nat.lt_succ_self _

variable {s : Symbols} {a b a' b' sep sep' text code : List Char}

/-- A character that is no escape begins no sequence. -/
theorem uncoloured_cons {c : Char} (h : c ≠ '\x1b') (rest : List Char) :
    uncoloured (c :: rest) = c :: uncoloured rest := by
  rw [uncoloured]
  rintro _ rfl
  exact absurd rfl h

theorem uncoloured_append (h : '\x1b' ∉ text) (rest : List Char) :
    uncoloured (text ++ rest) = text ++ uncoloured rest := by
  induction text with
  | nil => rfl
  | cons c cs ih =>
    have hc : c ≠ '\x1b' := fun hc => h (hc ▸ List.mem_cons_self)
    rw [List.cons_append, uncoloured_cons hc, ih fun hcs => h (List.mem_cons_of_mem c hcs),
      List.cons_append]

/-- A sequence goes, whatever stands behind it. -/
theorem uncoloured_escape (h : 'm' ∉ code) (rest : List Char) :
    uncoloured (escape code ++ rest) = uncoloured rest := by
  have hform : escape code ++ rest = '\x1b' :: '[' :: (code ++ ['m'] ++ rest) := by simp [escape]
  -- the first `m` behind the bracket is the one at the end of the sequence
  have hcut : Text.cutFirst ['m'] (code ++ ['m'] ++ rest) = some (code, rest) := by
    rw [Text.cutFirst_eq_some_iff, Text.firstAt_iff_absent (List.cons_ne_nil 'm' [])]
    intro hin
    rw [List.dropLast_singleton, List.append_nil] at hin
    exact h (hin.subset List.mem_cons_self)
  rw [hform, uncoloured]
  split
  next hc =>
    rw [hcut] at hc
    cases hc
    rfl
  next hc =>
    rw [hcut] at hc
    cases hc

/-! ## Texts with colours in them -/

/-- The first text is the second one with escape sequences in it, whatever stands behind it. -/
def Colours (coloured plain : List Char) : Prop :=
  ∀ rest, uncoloured (coloured ++ rest) = plain ++ uncoloured rest

namespace Colours

theorem uncoloured_eq (h : Colours a b) : uncoloured a = b := by
  have := h []
  rwa [List.append_nil, show uncoloured [] = [] by rw [uncoloured], List.append_nil] at this

/-- A text without an escape has no colours in it. -/
theorem same (h : '\x1b' ∉ text) : Colours text text := uncoloured_append h

theorem append (h : Colours a b) (h' : Colours a' b') : Colours (a ++ a') (b ++ b') := by
  intro rest
  rw [List.append_assoc, h, h', List.append_assoc]

/-- A text that is painted has colours around it and none in it. -/
theorem paint (style : Style) (h : '\x1b' ∉ text) :
    Colours (Theme.paint ⟨s, true⟩ style text) (Theme.paint ⟨s, false⟩ style text) := by
  intro rest
  have hcode : 'm' ∉ style.code := by cases style <;> decide
  show uncoloured (style.wrap text ++ rest) = text ++ uncoloured rest
  rw [Style.wrap_of_not_mem h, List.append_assoc, List.append_assoc, uncoloured_escape hcode,
    uncoloured_append h, reset, uncoloured_escape (by decide)]

variable {α : Type} {f g : α → List Char} {xs : List α}

theorem flatMap (h : ∀ x ∈ xs, Colours (f x) (g x)) : Colours (xs.flatMap f) (xs.flatMap g) := by
  induction xs with
  | nil => exact same List.not_mem_nil
  | cons x xs ih =>
    exact (h x List.mem_cons_self).append (ih fun y hy => h y (List.mem_cons_of_mem x hy))

theorem join (hsep : Colours sep sep') (h : ∀ x ∈ xs, Colours (f x) (g x)) :
    Colours (Text.join sep (xs.map f)) (Text.join sep' (xs.map g)) := by
  induction xs with
  | nil => exact same List.not_mem_nil
  | cons x xs ih =>
    have hx := h x List.mem_cons_self
    have hxs := ih fun y hy => h y (List.mem_cons_of_mem x hy)
    cases xs with
    | nil => exact hx
    | cons y ys => exact (hx.append hsep).append hxs

end Colours

/-! ## Reports -/

variable {dryRun : Bool} {input mapping target message old new : List Char}
  {output : Option (List Char)}

/-- No escape stands in the options of a run if there is none in its paths. -/
theorem not_mem_options (hi : '\x1b' ∉ input) (hm : '\x1b' ∉ mapping)
    (ho : ∀ out ∈ output, '\x1b' ∉ out) :
    ∀ option ∈ options dryRun input mapping output, '\x1b' ∉ option := by
  cases output with
  | none => cases dryRun <;> simp [options, hi, hm]
  | some out => cases dryRun <;> simp [options, hi, hm, ho out rfl]

theorem colours_banner (hi : '\x1b' ∉ input) (hm : '\x1b' ∉ mapping)
    (ho : ∀ out ∈ output, '\x1b' ∉ out) :
    Colours (banner ⟨s, true⟩ dryRun input mapping output)
      (banner ⟨s, false⟩ dryRun input mapping output) := by
  have hheading : '\x1b' ∉ (if dryRun then "Simulating:" else "Running:").toList := by
    cases dryRun <;> decide
  have hline : '\x1b' ∉ Text.join [' '] (options dryRun input mapping output) := by
    intro h
    rcases Text.mem_join h with h | ⟨option, hmem, h⟩
    · exact absurd h (by decide)
    · exact not_mem_options hi hm ho option hmem h
  exact ((((Colours.same (by decide)).append (.paint .dim hheading)).append
    (.same (by decide))).append (.same hline)).append (.same (by decide))

theorem colours_header (hs : '\x1b' ∉ s.toList) (hi : '\x1b' ∉ input) (ht : '\x1b' ∉ target) :
    Colours (header ⟨s, true⟩ input target) (header ⟨s, false⟩ input target) := by
  simp only [Symbols.toList, List.mem_cons, not_or] at hs
  have hdone : '\x1b' ∉ [s.done] := by simp [hs]
  have hframe : '\x1b' ∉ ['\n', s.bar, '\n', s.branch, s.dash] := by simp [hs]
  have hbar : '\x1b' ∉ ['\n', s.bar] := by simp [hs]
  exact ((((((Colours.paint .green hdone).append (.same (by decide))).append
    (.paint .cyan hi)).append (.same hframe)).append (.same (by decide))).append
      (.paint .yellow ht)).append (.same hbar)

theorem colours_sample (hs : '\x1b' ∉ s.toList) (ht : '\x1b' ∉ text) (lines : Nat) :
    Colours (sample ⟨s, true⟩ text lines) (sample ⟨s, false⟩ text lines) := by
  simp only [Symbols.toList, List.mem_cons, not_or] at hs
  have hopening : '\x1b' ∉ [s.branch, s.dash, ' '] := by simp [hs]
  have hclosing : '\x1b' ∉ [s.barEnd, s.dash, s.dash] := by simp [hs]
  have hsuccess : '\x1b' ∉ [s.success] := by simp [hs]
  have hlines : '\x1b' ∉ framed ⟨s, true⟩ ((Text.splitAt (· == '\n') text).take lines) := by
    intro h
    obtain ⟨line, hline, hmem⟩ := List.mem_flatMap.mp h
    have hfree : '\x1b' ∉ line := fun hl =>
      ht (Text.mem_of_mem_splitAt (List.mem_of_mem_take hline) hl)
    simp [hs, hfree] at hmem
  rw [sample_eq, sample_eq]
  exact ((((Colours.same hopening).append (.paint .dim (by decide))).append
    (.same (by decide))).append (.same hlines)).append ((Colours.same hclosing).append
      (.paint .green hsuccess))

theorem colours_finished (hs : '\x1b' ∉ s.toList) (ht : '\x1b' ∉ target) :
    Colours (finished ⟨s, true⟩ target) (finished ⟨s, false⟩ target) := by
  simp only [Symbols.toList, List.mem_cons, not_or] at hs
  have hend : '\x1b' ∉ [s.barEnd] := by simp [hs]
  have hsuccess : '\x1b' ∉ [s.success] := by simp [hs]
  exact ((((Colours.same hend).append (.paint .green hsuccess)).append (.same (by decide))).append
    (.paint .green ht)).append (.same (by decide))

theorem colours_failure (hs : '\x1b' ∉ s.toList) (hm : '\x1b' ∉ message) :
    Colours (failure ⟨s, true⟩ message) (failure ⟨s, false⟩ message) := by
  simp only [Symbols.toList, List.mem_cons, not_or] at hs
  have hfailed : '\x1b' ∉ [s.failed] := by simp [hs]
  exact ((((Colours.same (by decide)).append (.paint .red hfailed)).append
    (.same (by decide))).append (.same hm)).append (.same (by decide))

/-! ### Differences -/

theorem colours_diffLine (tag : Tag) {line : List Char} (hl : '\x1b' ∉ line) :
    Colours (diffLine ⟨s, true⟩ tag line) (diffLine ⟨s, false⟩ tag line) := by
  have hmarked : '\x1b' ∉ markedLine tag line := by
    rw [markedLine]
    cases tag <;> split <;> simp [mark, hl]
  cases tag with
  | keep => exact .same hmarked
  | delete => exact .paint .red hmarked
  | insert => exact .paint .green hmarked

theorem colours_diff (ho : '\x1b' ∉ old) (hn : '\x1b' ∉ new) :
    Colours (diff ⟨s, true⟩ old new) (diff ⟨s, false⟩ old new) := by
  have hfree : ∀ {cs line : List Char}, '\x1b' ∉ cs → line ∈ Diff.cutLines cs → '\x1b' ∉ line := by
    intro cs line hcs hline hmem
    refine hcs ?_
    rw [← Diff.flatten_cutLines cs]
    exact List.mem_flatten.mpr ⟨line, hline, hmem⟩
  -- hunk by hunk, and in each of them line by line
  refine Colours.join (.paint .dim (by decide)) fun h hh => .flatMap ?_
  rintro ⟨tag, line⟩ hline
  refine colours_diffLine tag ?_
  rcases Diff.mem_of_mem_hunks hh hline with hl | hl
  · exact hfree ho hl
  · exact hfree hn hl

/-- Without its escape sequences every part of a report in colours is what it is without colours, if
there is no escape in what is reported. -/
theorem uncoloured_report (hs : '\x1b' ∉ s.toList) :
    (∀ dryRun input mapping output,
      '\x1b' ∉ input → '\x1b' ∉ mapping → (∀ out ∈ output, '\x1b' ∉ out) →
      uncoloured (banner ⟨s, true⟩ dryRun input mapping output) =
        banner ⟨s, false⟩ dryRun input mapping output) ∧
    (∀ input target, '\x1b' ∉ input → '\x1b' ∉ target →
      uncoloured (header ⟨s, true⟩ input target) = header ⟨s, false⟩ input target) ∧
    (∀ text lines, '\x1b' ∉ text →
      uncoloured (sample ⟨s, true⟩ text lines) = sample ⟨s, false⟩ text lines) ∧
    (∀ target, '\x1b' ∉ target →
      uncoloured (finished ⟨s, true⟩ target) = finished ⟨s, false⟩ target) ∧
    (∀ message, '\x1b' ∉ message →
      uncoloured (failure ⟨s, true⟩ message) = failure ⟨s, false⟩ message) ∧
    (∀ old new, '\x1b' ∉ old → '\x1b' ∉ new →
      uncoloured (diff ⟨s, true⟩ old new) = diff ⟨s, false⟩ old new) := by
  refine ⟨?_, ?_, ?_, ?_, ?_, ?_⟩
  · exact fun _ _ _ _ hi hm ho => (colours_banner hi hm ho).uncoloured_eq
  · exact fun _ _ hi ht => (colours_header hs hi ht).uncoloured_eq
  · exact fun _ lines ht => (colours_sample hs ht lines).uncoloured_eq
  · exact fun _ ht => (colours_finished hs ht).uncoloured_eq
  · exact fun _ hm => (colours_failure hs hm).uncoloured_eq
  · exact fun _ _ ho hn => (colours_diff ho hn).uncoloured_eq

/-- Under either set of symbols: lines without ends are painted with the ends that they get. -/
theorem uncoloured_report_unended :
    '\x1b' ∉ Symbols.ascii.toList ∧ '\x1b' ∉ Symbols.unicode.toList ∧
    diff ⟨.ascii, true⟩ "a\nb".toList "a\nc".toList =
      " a\n\x1b[31m-b\n\x1b[0m\x1b[32m+c\n\x1b[0m".toList ∧
    uncoloured (diff ⟨.ascii, true⟩ "a\nb".toList "a\nc".toList) =
      diff ⟨.ascii, false⟩ "a\nb".toList "a\nc".toList ∧
    uncoloured (finished ⟨.unicode, true⟩ "/o.c".toList) =
      finished ⟨.unicode, false⟩ "/o.c".toList := by
  have hascii : '\x1b' ∉ Symbols.ascii.toList := by decide
  have hunicode : '\x1b' ∉ Symbols.unicode.toList := by decide
  obtain ⟨-, -, -, -, -, hdiff⟩ := uncoloured_report hascii
  obtain ⟨-, -, -, hfinished, -, -⟩ := uncoloured_report hunicode
  exact ⟨hascii, hunicode, by cbv, hdiff _ _ (by decide) (by decide), hfinished _ (by decide)⟩

end Remap.Report
