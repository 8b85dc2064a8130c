import Remap.Proofs.Mapping.Grammar
import Remap.Proofs.Mapping.Printing
/-!
# Replacements that can be written

A replacement is read from what is left of a line when white space and comments are taken off. With
`\s` for a space, and with one backslash more before an `s`, almost every text in one line can be
written. Only a backslash with a space behind it cannot stand at the end: the space would have to be
`\s`, and `\\s` is read as the text `\s`.

Main statements: `parse_escapeSpaces` and `exists_parse_iff`.
-/

namespace Remap.Mapping

/-- The line of a rule for the letter `k`, with its replacement as it is written. -/
def lineOfK (raw : List Char) : List Char := 'k' :: ' ' :: '=' :: '>' :: ' ' :: raw

theorem not_comment_isInfix_lineOfK (t : List Char) :
    ¬ [' ', '#', ' '] <:+: lineOfK (escapeSpaces false t) := by
  rw [lineOfK]
  simp only [List.infix_cons_iff, List.cons_prefix_cons]
  have hsigns : ¬ ' ' = 'k' ∧ ¬ '#' = '=' ∧ ¬ ' ' = '=' ∧ ¬ ' ' = '>' := by decide
  rintro (h | h | h | h | h | h)
  · exact hsigns.1 h.1
  · exact hsigns.2.1 h.2.1
  · exact hsigns.2.2.1 h.1
  · exact hsigns.2.2.2 h.1
  · exact not_hash_space_isPrefix false t h.2
  · exact not_comment_isInfix false t h

/-- A trimmed replacement is taken from the line as it stands there. -/
theorem ofText_lineOfK {raw : List Char} (h : Text.Trimmed raw)
    (hno : ¬ [' ', '#', ' '] <:+: lineOfK raw) :
    Line.ofText {} (lineOfK raw) = .rule ['k'] raw := by
  have hrule : IsRuleLine {} (lineOfK raw) :=
    isRuleLine_of_head? (Text.head?_trim_cons (by decide) _) (by decide)
  have harrow : [' ', '=', '>'] <+: ' ' :: '=' :: '>' :: ' ' :: raw := ⟨_, rfl⟩
  have hk : ¬ [' ', '=', '>'] <+: 'k' :: ' ' :: '=' :: '>' :: ' ' :: raw := by
    rw [List.cons_prefix_cons]
    rintro ⟨hc, -⟩
    cases hc
  have hcut : Text.cutFirst [' ', '=', '>'] (lineOfK raw) = some (['k'], ' ' :: raw) := by
    rw [lineOfK, Text.cutFirst_cons_of_not_isPrefix hk, Text.cutFirst_of_isPrefix harrow]
    rfl
  have hraw : Text.trim (' ' :: raw) = raw := by
    rw [Text.trim_cons_of_blank (by decide), h.trim_eq]
  rw [ofText_of_isRuleLine hrule]
  dsimp only
  rw [Text.before_of_not_infix (by decide) hno, hcut]
  dsimp only
  rw [hraw]
  rfl

/-- A replacement is read again when it is written in the line of a rule. -/
theorem parse_escapeSpaces {t : List Char} (h : IsReplacement t) :
    parse (lineOfK (escapeSpaces false t)) = .ok [⟨.literal ['k'], t⟩] := by
  have hn : '\n' ∉ lineOfK (escapeSpaces false t) := by
    simp [lineOfK, h.no_newline_escapeSpaces]
  have hne : lineOfK (escapeSpaces false t) ≠ [] := List.cons_ne_nil _ _
  have htext := ofText_lineOfK h.trimmed (not_comment_isInfix_lineOfK t)
  rw [parse, read, Text.lines_of_not_mem hne hn, readLines, htext]
  show Except.ok [Rule.mk (.literal ['k']) (unescapeSpaces (escapeSpaces false t))] = _
  rw [unescapeSpaces_escapeSpaces]

/-- A text in one line that has no white space but spaces at its ends is the replacement of some
line, exactly if it does not end with a backslash and a space. -/
theorem exists_parse_iff {t : List Char} (hn : '\n' ∉ t)
    (hfirst : ∀ c, t.head? = some c → c = ' ' ∨ Text.isBlank c = false)
    (hlast : ∀ c, t.getLast? = some c → c = ' ' ∨ Text.isBlank c = false) :
    (∃ raw, '\n' ∉ raw ∧ parse (lineOfK raw) = .ok [⟨.literal ['k'], t⟩]) ↔
      ¬ ['\\', ' '] <:+ t := by
  constructor
  · rintro ⟨raw, -, hparse⟩
    exact (written_of_parse hparse _ List.mem_cons_self).replacement.no_backslash_space
  · intro hend
    have h : IsReplacement t := ⟨hn, hfirst, hlast, hend⟩
    exact ⟨_, h.no_newline_escapeSpaces, parse_escapeSpaces h⟩

theorem exists_parse_signs :
    let t := " \\s\\\\s # \\ => ".toList
    '\n' ∉ t ∧ (∀ c, t.head? = some c → c = ' ' ∨ Text.isBlank c = false) ∧
      (∀ c, t.getLast? = some c → c = ' ' ∨ Text.isBlank c = false) ∧
      ∃ raw, '\n' ∉ raw ∧ parse (lineOfK raw) = .ok [⟨.literal ['k'], t⟩] := by
  intro t
  have hn : '\n' ∉ t := by decide
  have hfirst : ∀ c, t.head? = some c → c = ' ' ∨ Text.isBlank c = false :=
    fun c hc => .inl (Option.some.inj hc).symm
  have hlast : ∀ c, t.getLast? = some c → c = ' ' ∨ Text.isBlank c = false :=
    fun c hc => .inl (Option.some.inj hc).symm
  exact ⟨hn, hfirst, hlast, (exists_parse_iff hn hfirst hlast).mpr (by decide)⟩

/-- No rule of any mapping text has a backslash and a space as its replacement. -/
theorem replacement_ne_backslash_space :
    let t := ['\\', ' ']
    '\n' ∉ t ∧ '\r' ∉ t ∧ (∀ c, t.head? = some c → c = ' ' ∨ Text.isBlank c = false) ∧
      (∀ c, t.getLast? = some c → c = ' ' ∨ Text.isBlank c = false) ∧
      ¬ ∃ text rules, parse text = .ok rules ∧ ∃ rule ∈ rules, rule.replacement = t := by
  intro t
  refine ⟨by decide, by decide, fun c hc => .inr ?_, fun c hc => .inl (Option.some.inj hc).symm, ?_⟩
  · rw [← Option.some.inj hc]
    rfl
  · rintro ⟨text, rules, hparse, rule, hrule, heq⟩
    have hend := (written_of_parse hparse rule hrule).replacement.no_backslash_space
    rw [heq] at hend
    exact hend (List.suffix_refl _)

end Remap.Mapping
