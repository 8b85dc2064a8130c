import Remap.Proofs.Mapping.Grammar
import Remap.Proofs.Mapping.Matcher
import Remap.Proofs.Mapping.Spaces
/-!
# Rules that can be used

Whatever the signs of a mapping text are, the rules that are read from it have something to look
for, in which no sign stands. The token of a line is what is left of it before the first arrow and
the first comment, without the white space around it, and the source of a pattern is a part of its
token. A pattern as it is written begins and ends without white space, too, and begins as its token
does; a sign can come up only at its flag letters, which are put in order.

Main statements: `forall_entries_readLines`, by which what holds of each rule line holds of a whole
text, `isTokenOf_of_ofText` and `usable_of_read`.
-/

namespace Remap

/-- What a matcher is made of: the literal itself, or the source of the pattern. -/
def Matcher.source : Matcher → List Char
  | literal text => text
  | pattern p => p.source

/-- What the rules have in common that are read from mapping texts with the signs `s`. -/
structure Rule.Usable (s : MappingSyntax) (r : Rule) : Prop where
  source_ne_nil : r.matcher.source ≠ []
  no_newline : '\n' ∉ r.matcher.source
  no_arrow : ¬ s.arrow <:+: r.matcher.source
  no_comment : ¬ s.inlineComment <:+: r.matcher.source
  trimmed : Text.Trimmed r.matcher.toText
  first : r.matcher.toText.head? ≠ some s.lineComment
  one_line : '\n' ∉ r.replacement

namespace Mapping

variable {s : MappingSyntax} {line token raw : List Char}

/-! ## Texts and their lines -/

/-- What holds of the entries that are made of lines holds of all that is read. -/
theorem forall_entries_readLines {P : Entry → Prop} {lines : List (List Char)}
    (h : ∀ line ∈ lines, ∀ token raw, Line.ofText s line = .rule token raw →
      ∀ n, P (.make s n token raw)) (n : Nat) : ∀ e ∈ (readLines s n lines).entries, P e := by
  induction lines generalizing n with
  | nil => exact fun e he => absurd he List.not_mem_nil
  | cons line rest ih =>
    have hrest := ih fun l hl => h l (List.mem_cons_of_mem line hl)
    rw [readLines]
    split
    · exact hrest (n + 1)
    · exact fun e he => absurd he List.not_mem_nil
    next token raw hline =>
      intro e he
      rcases List.mem_cons.mp he with rfl | he
      · exact h line List.mem_cons_self token raw hline n
      · exact hrest (n + 1) e he

theorem Outcome.exists_entry {o : Outcome} {rules : RuleSet} (h : o.rules = .ok rules) {r : Rule}
    (hr : r ∈ rules) : ∃ e ∈ o.entries, e.rule = r := by
  unfold Outcome.rules at h
  split at h
  · cases h
  next =>
    cases h
    exact List.mem_map.mp hr

/-! ## Tokens of lines -/

/-- What the tokens of lines have in common, by the signs `s`. -/
structure IsTokenOf (s : MappingSyntax) (token : List Char) : Prop where
  trimmed : Text.Trimmed token
  ne_nil : token ≠ []
  no_newline : '\n' ∉ token
  no_arrow : ¬ s.arrow <:+: token
  no_comment : ¬ s.inlineComment <:+: token
  first : token.head? ≠ some s.lineComment

theorem Uncommented.not_infix {part : List Char} (hs : s.inlineComment ≠ [])
    (h : Uncommented s line part) : ¬ s.inlineComment <:+: part := by
  rw [← uncommented_iff.mp h]
  exact Text.not_infix_before hs

theorem Uncommented.isPrefix {part : List Char} (h : Uncommented s line part) : part <+: line := by
  rw [← uncommented_iff.mp h]
  exact Text.before_isPrefix s.inlineComment line

/-- Something stands before the arrow only if neither sign is empty: an empty one would be found at
the front of the line. -/
theorem signs_ne_nil {part left right : List Char} (hpart : Uncommented s line part)
    (harrow : Text.FirstAt s.arrow part left right) (hleft : left ≠ []) :
    s.arrow ≠ [] ∧ s.inlineComment ≠ [] := by
  -- an empty sign would be found at the start of the text, and leave nothing before it
  constructor
  · intro hs
    rw [hs] at harrow
    exact hleft harrow.eq_nil
  · intro hs
    have hnil : part = [] := by
      cases hpart with
      | cut h =>
        rw [hs] at h
        exact h.eq_nil
      | whole h =>
        rw [hs] at h
        exact absurd List.nil_infix h
    have hall : left ++ (s.arrow ++ right) = [] := by
      rw [← List.append_assoc, ← harrow.eq, hnil]
    exact hleft (List.append_eq_nil_iff.mp hall).1

/-- What is left before the arrow of a rule line is a token. -/
theorem isTokenOf_trim {left right : List Char} (hn : '\n' ∉ line) (hrule : IsRuleLine s line)
    (h : HasArrow s line left right) (hleft : Text.trim left ≠ []) :
    IsTokenOf s (Text.trim left) := by
  obtain @⟨part, hpart, harrow⟩ := h
  have hne : left ≠ [] := by
    rintro rfl
    exact hleft rfl
  -- what stands before the first arrow and the first comment contains neither
  have hsigns := signs_ne_nil hpart harrow hne
  have hin : Text.trim left <:+: left := Text.trim_isInfix left
  have hleftPart : left <+: part :=
    ⟨s.arrow ++ right, by rw [← List.append_assoc, ← harrow.eq]⟩
  have hleftLine : left <+: line := hleftPart.trans hpart.isPrefix
  exact {
    trimmed := Text.trimmed_trim left
    ne_nil := hleft
    no_newline := fun hm => hn (hleftLine.subset (hin.subset hm))
    no_arrow := fun ha => harrow.not_infix hsigns.1 (ha.trans hin)
    no_comment := fun hc => hpart.not_infix hsigns.2 ((hc.trans hin).trans hleftPart.isInfix)
    first := by
      rw [Text.head?_trim_of_isPrefix hleftLine hleft]
      exact hrule.not_comment }

theorem isTokenOf_of_ofText (hn : '\n' ∉ line) (h : Line.ofText s line = .rule token raw) :
    IsTokenOf s token ∧ Text.Trimmed raw ∧ '\n' ∉ raw := by
  obtain ⟨hrule, left, right, harrow, hleft, rfl, rfl⟩ := exists_of_ofText_eq_rule h
  refine ⟨isTokenOf_trim hn hrule harrow hleft, Text.trimmed_trim right, ?_⟩
  obtain ⟨hpart, hfirst⟩ := harrow
  have hright : right <:+: line :=
    (List.IsSuffix.isInfix ⟨_, hfirst.eq.symm⟩).trans hpart.isPrefix.isInfix
  exact fun hm => hn (hright.subset ((Text.trim_isInfix right).subset hm))

/-! ## Rules of lines -/

/-- The rule of a token is usable, whether the token is a pattern, no pattern, or refused as one. -/
theorem IsTokenOf.usable {replacement : List Char} (h : IsTokenOf s token)
    (hn : '\n' ∉ replacement) : Rule.Usable s ⟨(Matcher.ofToken token).1, replacement⟩ := by
  rcases Matcher.ofToken_cases token with hm | ⟨p, letters, hm, hparts, -⟩ <;> rw [hm]
  · exact ⟨h.ne_nil, h.no_newline, h.no_arrow, h.no_comment, h.trimmed, h.first, hn⟩
  · -- a sign in the source would stand in the token, and both texts begin with the same slash
    have hin : p.source <:+: token := hparts.body_isInfix
    exact {
      source_ne_nil := hparts.body_ne_nil
      no_newline := hparts.no_newline
      no_arrow := fun ha => h.no_arrow (ha.trans hin)
      no_comment := fun hc => h.no_comment (hc.trans hin)
      trimmed := hparts.toText.trimmed
      first := by
        have hhead : p.toText.head? = token.head? := by
          rw [hparts.toText.head?_eq, hparts.head?_eq]
        show p.toText.head? ≠ some s.lineComment
        rw [hhead]
        exact h.first
      one_line := hn }

/-- Making a replacement of what stands behind the arrow puts no line feed in it. -/
theorem usable_make (h : IsTokenOf s token) (hraw : '\n' ∉ raw) (n : Nat) :
    (Entry.make s n token raw).rule.Usable s := by
  refine h.usable ?_
  split
  · intro hm
    rcases mem_unescapeSpaces hm with hm | hm
    · exact hraw hm
    · cases hm
  · exact hraw

/-- All rules that are read from a text are usable, with any signs. -/
theorem usable_of_read {text : List Char} {rules : RuleSet} (h : (read s text).rules = .ok rules) :
    ∀ r ∈ rules, r.Usable s ∧ r.matcher ≠ .literal [] := by
  intro r hr
  obtain ⟨e, he, rfl⟩ := Outcome.exists_entry h hr
  have husable : e.rule.Usable s := by
    refine forall_entries_readLines (P := fun e => e.rule.Usable s) ?_ 1 e he
    intro line hline token raw htext n
    obtain ⟨htoken, -, hraw⟩ := isTokenOf_of_ofText (Text.not_mem_of_mem_lines hline) htext
    exact usable_make htoken hraw n
  refine ⟨husable, fun hliteral => husable.source_ne_nil ?_⟩
  rw [hliteral]
  rfl

/-- The signs overlap each other and have spaces at their ends, the source has one of their
characters, and the last token is refused as a pattern. -/
theorem usable_of_read_overlapping_signs :
    let s : MappingSyntax :=
      { arrow := " :".toList, inlineComment := ": ".toList, lineComment := ';' }
    ∃ rules rule,
      (read s "; x : y\n\t/b:c/sg :\\s: x\n/(/ :".toList).rules = .ok rules ∧ rule ∈ rules ∧
        rule.matcher.toText = "/b:c/gs".toList ∧ rule.replacement = [' '] ∧
        rule.Usable s ∧ rule.matcher ≠ .literal [] := by
  intro s
  obtain ⟨rules, rule, h, hmem, htext, hreplacement⟩ : ∃ rules rule,
      (read s "; x : y\n\t/b:c/sg :\\s: x\n/(/ :".toList).rules = .ok rules ∧ rule ∈ rules ∧
        rule.matcher.toText = "/b:c/gs".toList ∧ rule.replacement = [' '] :=
    ⟨_, _, rfl, List.mem_cons_self, rfl, rfl⟩
  exact ⟨rules, rule, h, hmem, htext, hreplacement, usable_of_read h rule hmem⟩

end Mapping
end Remap
