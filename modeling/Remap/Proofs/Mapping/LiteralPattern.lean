import Remap.Mapping.Rule
import Remap.Proofs.Pattern.Rendering
import Remap.Proofs.Pattern.Replacement
import Remap.Proofs.Regex.Escaping
/-!
# Literals as patterns

A literal rule can be written as a pattern rule: its text with backslashes, the flag `g`, and its
replacement with the dollars doubled. Both rules do the same to every text.

Main statement: `apply_literal_eq_apply_pattern`.
-/

namespace Remap

open Regex (Match Reports Spells)

/-! ## Matches and pieces -/

section
variable {a : Regex.Automaton} {text : Array Char} {w : List Char} {start : Nat}

/-- Where a word is found first, the text in front of it and the text behind it are cut off. -/
theorem cut_at_match {b rest : List Char}
    (h : Text.cutFirst w (text.toList.drop start) = some (b, rest)) :
    (text.toList.drop start).take b.length = b ∧
      text.toList.drop (start + b.length + w.length) = rest := by
  have heq := Text.eq_of_cutFirst h
  constructor
  · rw [heq, List.append_assoc, List.take_left]
  · rw [Nat.add_assoc, ← List.drop_drop, heq, ← List.length_append, List.drop_left]

/-- Splicing a text into the matches of a word joins the pieces between its occurrences. -/
theorem splice_eq_join {last : Option Nat} {ms : List Match} (hw : Spells a.program w a.entry)
    (hne : w ≠ []) (h : Reports a text start last ms) (new : List Char) :
    splice start (text.toList.drop start) (ms.map fun m => (m.start, m.stop, new)) =
      Text.join new (Text.pieces w (text.toList.drop start)) := by
  -- the next match is the first occurrence, and `pieces` cuts there too
  induction h with
  | @done start last h =>
    rw [Regex.Automaton.findNext_eq_cutFirst hw hne] at h
    rw [Text.pieces_of_cutFirst_none hne (Option.map_eq_none_iff.mp h)]
    rfl
  | @next start last m ms h _ ih =>
    rw [Regex.Automaton.findNext_eq_cutFirst hw hne] at h
    obtain ⟨⟨b, rest⟩, hcut, rfl⟩ := Option.map_eq_some_iff.mp h
    obtain ⟨hb, hrest⟩ := cut_at_match hcut
    rw [Text.pieces_of_cutFirst hne hcut, Text.join_cons (Text.pieces_ne_nil w rest)]
    simp only [Match.after, List.map_cons, splice] at ih ⊢
    rw [Nat.add_sub_cancel_left, hb, List.drop_drop,
      show start + (start + b.length + w.length - start) = start + b.length + w.length by omega,
      ih, hrest]

end

/-! ## Rules -/

namespace Pattern

/-- The pattern of an escaped word with the flag `g`. -/
theorem of_compile_escape {w : List Char} {p : Pattern}
    (h : compile (Regex.escape w) ['g'] = .ok p) :
    p.flags = { everywhere := true } ∧ p.regex = Regex.ofNode (.word w) := by
  obtain ⟨-, hflags, hregex⟩ := of_compile h
  have hg : p.flags = { everywhere := true } := (Except.ok.inj hflags).symm
  rw [hg] at hregex
  have hcompile := hregex.symm.trans (Regex.compile_escape w)
  split at hcompile
  · cases hcompile
  · exact ⟨hg, Except.ok.inj hcompile⟩

/-- An escaped word is refused only if its automaton would be too large. -/
theorem error_of_compile_escape {w : List Char} {e : PatternError}
    (h : compile (Regex.escape w) ['g'] = .error e) :
    e = .regex (Regex.escape w) .tooLarge := by
  have hflags : Flags.ofText? ['g'] = .ok { everywhere := true } := rfl
  rw [compile, hflags] at h
  dsimp only at h
  rw [show Flags.mode { everywhere := true } = {} from rfl, Regex.compile_escape] at h
  split at h
  next e' he =>
    split at he
    · cases he
      exact (Except.error.inj h).symm
    · cases he
  · cases h

end Pattern

/-- A literal rule does to every text what the pattern rule does that is made of its text with
backslashes, the flag `g` and its replacement with the dollars doubled. There is such a pattern rule
unless its automaton would be too large. -/
theorem Rule.apply_literal_eq_apply_pattern {w : List Char} (hw : w ≠ []) :
    (∀ p, Pattern.compile (Regex.escape w) ['g'] = .ok p → ∀ new text,
      Rule.apply ⟨.literal w, new⟩ text = Rule.apply ⟨.pattern p, doubleDollars new⟩ text) ∧
    ∀ e, Pattern.compile (Regex.escape w) ['g'] = .error e →
      e = .regex (Regex.escape w) .tooLarge := by
  refine ⟨?_, fun e => Pattern.error_of_compile_escape⟩
  intro p h new text
  obtain ⟨hflags, hregex⟩ := Pattern.of_compile_escape h
  have hspells : Spells p.regex.automaton.program w p.regex.automaton.entry := by
    rw [hregex]
    exact Regex.spells_ofNode w
  have hfound : p.found text = p.regex.automaton.allMatches text.toArray := by
    rw [Pattern.found, hflags]
    rfl
  have hreports := Regex.Automaton.reports_allMatches p.regex.automaton text.toArray
  -- both sides put `new` between the same pieces, the pattern by the places of its matches
  show Text.join new (Text.pieces w text) = splice 0 text ((p.found text).map fun m =>
    (m.start, m.stop, Template.expand p.shape (p.matched text m) (doubleDollars new)))
  simp only [Template.expand_doubleDollars]
  rw [hfound]
  exact (splice_eq_join hspells hw hreports new).symm

theorem Rule.apply_pattern_overlapping :
    "a.a".toList ≠ [] ∧ ∃ p, Pattern.compile (Regex.escape "a.a".toList) ['g'] = .ok p ∧
      Rule.apply ⟨.pattern p, doubleDollars "$1".toList⟩ "a.a.a b.a.a".toList =
        "$1.a b.$1".toList := by
  have hw : "a.a".toList ≠ [] := by decide
  refine ⟨hw, _, rfl, ?_⟩
  rw [← (Rule.apply_literal_eq_apply_pattern hw).1 _ rfl]
  cbv

end Remap
