import Remap.Proofs.Mapping.Usable
import Remap.Proofs.Text.Line
/-!
# Writing rules

The rules of a mapping text can be written as a text again, each on a line of its own. What is read
from that text are the same rules.

Main statements: `written_of_parse` and `parse_toText`.
-/

namespace Remap

open Mapping (Line)

/-! ## Tokens of lines -/

/-- A text that is read as a token when it stands at the front of a line. -/
structure IsToken (token : List Char) : Prop where
  trimmed : Text.Trimmed token
  ne_nil : token ≠ []
  no_newline : '\n' ∉ token
  no_arrow : ¬ [' ', '=', '>'] <:+: token
  no_comment : ¬ [' ', '#', ' '] <:+: token
  first : token.head? ≠ some '#'

/-- The token of a line is one, and its replacement is trimmed. -/
theorem isToken_of_ofText {line token raw : List Char} (hn : '\n' ∉ line)
    (h : Line.ofText {} line = .rule token raw) :
    IsToken token ∧ Text.Trimmed raw ∧ '\n' ∉ raw := by
  obtain ⟨htoken, hraw⟩ := Mapping.isTokenOf_of_ofText hn h
  exact ⟨⟨htoken.trimmed, htoken.ne_nil, htoken.no_newline, htoken.no_arrow, htoken.no_comment,
    htoken.first⟩, hraw⟩

/-- A token that is read as a pattern is one too as that pattern is written: only its flag letters
may stand in another order. -/
theorem IsToken.toText_pattern {token letters : List Char} {p : Pattern} (h : IsToken token)
    (hparts : PatternParts token p.source letters) : IsToken p.toText := by
  have hpre : '/' :: p.source <:+: token := by
    rw [hparts.eq]
    exact (List.prefix_append _ _).isInfix
  have htext := hparts.toText.eq
  -- a word with a space in it does not occur among flag letters
  have hword : ∀ w : List Char, '/' ∉ w → ' ' ∈ w → w <:+: p.toText → w <:+: token := by
    intro w hslash hspace hw
    rw [htext] at hw
    rcases Text.infix_append_cons hslash hw with hw | hw
    · exact hw.trans hpre
    · exact absurd (hw.subset hspace) (p.flags.not_mem_toText (by decide))
  refine ⟨hparts.toText.trimmed, ?_, ?_, ?_, ?_, ?_⟩
  · rw [htext]
    exact List.cons_ne_nil _ _
  · rw [htext]
    intro hm
    rcases List.mem_append.mp hm with hm | hm
    · exact h.no_newline (hpre.subset hm)
    · rcases List.mem_cons.mp hm with hm | hm
      · cases hm
      · exact p.flags.not_mem_toText (by decide) hm
  · exact fun hw => h.no_arrow (hword _ (by decide) (by decide) hw)
  · exact fun hw => h.no_comment (hword _ (by decide) (by decide) hw)
  · rw [hparts.toText.head?_eq]
    decide

/-! ## Written rules -/

/-- A rule whose matcher is written as a token that is read as that matcher. -/
structure Rule.Written (r : Rule) : Prop where
  token : IsToken r.matcher.toText
  matcher : (Matcher.ofToken r.matcher.toText).1 = r.matcher
  replacement : IsReplacement r.replacement

/-- The matcher of a token is written as a token of that matcher. -/
theorem Matcher.written_ofToken {token : List Char} (h : IsToken token) :
    IsToken (ofToken token).1.toText ∧
      (ofToken (ofToken token).1.toText).1 = (ofToken token).1 := by
  refine ⟨?_, ofToken_toText token⟩
  rcases ofToken_cases token with hm | ⟨p, letters, hm, hparts, -⟩ <;> rw [hm]
  · exact h
  · exact h.toText_pattern hparts

namespace Mapping

/-- All rules that are read are written. -/
theorem written_of_parse {text : List Char} {rules : RuleSet} (h : parse text = .ok rules) :
    ∀ r ∈ rules, r.Written := by
  intro r hr
  obtain ⟨e, he, rfl⟩ := Outcome.exists_entry h hr
  refine forall_entries_readLines (P := fun e => e.rule.Written) ?_ 1 e he
  intro line hline token raw htext n
  obtain ⟨htoken, hraw, hn⟩ := isToken_of_ofText (Text.not_mem_of_mem_lines hline) htext
  obtain ⟨hwritten, hmatcher⟩ := Matcher.written_ofToken htoken
  exact ⟨hwritten, hmatcher, isReplacement_unescapeSpaces hraw hn⟩

end Mapping

/-! ## Writing and reading again -/

/-- A rule as it is written: the matcher, a tab, the arrow and the replacement. -/
def Rule.toText (r : Rule) : List Char :=
  r.matcher.toText ++ '\t' :: ' ' :: '=' :: '>' :: escapeSpaces false r.replacement

/-- Rules as they are written, each on a line of its own. -/
def RuleSet.toText (rules : RuleSet) : List Char := rules.flatMap fun r => r.toText ++ ['\n']

theorem Rule.Written.no_newline {r : Rule} (h : r.Written) : '\n' ∉ r.toText := by
  rw [toText]
  intro hm
  rcases List.mem_append.mp hm with hm | hm
  · exact h.token.no_newline hm
  · simp only [List.mem_cons] at hm
    rcases hm with hm | hm | hm | hm | hm
    · cases hm
    · cases hm
    · cases hm
    · cases hm
    · exact h.replacement.no_newline_escapeSpaces hm

/-- A written rule does not end like a line. -/
theorem Rule.Written.getLast?_ne {r : Rule} (h : r.Written) : r.toText.getLast? ≠ some '\r' := by
  rw [toText, List.getLast?_append_of_ne_nil _ (List.cons_ne_nil _ _)]
  cases he : escapeSpaces false r.replacement with
  | nil => decide
  | cons c cs =>
    intro hlast
    have hc : (c :: cs).getLast? = some '\r' := by
      rwa [List.getLast?_cons_cons, List.getLast?_cons_cons, List.getLast?_cons_cons,
        List.getLast?_cons_cons] at hlast
    rw [← he] at hc
    have hblank := h.replacement.trimmed.last _ hc
    exact absurd hblank (by decide)

theorem Rule.Written.no_comment {r : Rule} (h : r.Written) : ¬ [' ', '#', ' '] <:+: r.toText := by
  rw [toText]
  intro hw
  rcases Text.infix_append_cons (by decide) hw with hw | hw
  · exact h.token.no_comment hw
  · simp only [List.infix_cons_iff, List.cons_prefix_cons] at hw
    have hsigns : ¬ '#' = '=' ∧ ¬ ' ' = '=' ∧ ¬ ' ' = '>' := by decide
    rcases hw with hw | hw | hw | hw
    · exact hsigns.1 hw.2.1
    · exact hsigns.2.1 hw.1
    · exact hsigns.2.2 hw.1
    · exact not_comment_isInfix _ _ hw

/-- A written rule is taken apart into its token and its replacement. -/
theorem Rule.Written.ofText_toText {r : Rule} (h : r.Written) :
    Line.ofText {} r.toText =
      .rule r.matcher.toText (escapeSpaces false r.replacement) := by
  obtain ⟨c, token, htoken⟩ := List.exists_cons_of_ne_nil h.token.ne_nil
  have hblank : Text.isBlank c = false := h.token.trimmed.first c (by rw [htoken]; rfl)
  have hc : c ≠ '#' := by
    rintro rfl
    exact h.token.first (by rw [htoken]; rfl)
  have htrim : (Text.trim r.toText).head? = some c := by
    rw [toText, htoken, List.cons_append]
    exact Text.head?_trim_cons hblank _
  obtain ⟨rest, hrest⟩ := List.head?_eq_some_iff.mp htrim
  have hbefore : Text.before [' ', '#', ' '] r.toText = r.toText :=
    Text.before_of_not_infix (by decide) h.no_comment
  have harrow : [' ', '=', '>'] <+: ' ' :: '=' :: '>' :: escapeSpaces false r.replacement :=
    ⟨_, rfl⟩
  -- no arrow in the token and none across the tab, so the printed one is the first
  have hcut : Text.cutFirst [' ', '=', '>'] r.toText =
      some (r.matcher.toText ++ ['\t'], escapeSpaces false r.replacement) := by
    rw [toText, Text.cutFirst_append_cons (by decide) (by decide) h.token.no_arrow,
      Text.cutFirst_of_isPrefix harrow]
    rfl
  have hleft : Text.trim (r.matcher.toText ++ ['\t']) = r.matcher.toText :=
    h.token.trimmed.trim_concat h.token.ne_nil (by decide)
  unfold Line.ofText
  rw [hrest]
  dsimp only
  rw [if_neg hc, hbefore, hcut]
  dsimp only
  rw [hleft, h.replacement.trimmed.trim_eq]
  split
  next hnil => exact absurd hnil h.token.ne_nil
  next => rfl

namespace Mapping

theorem lines_toText {rules : RuleSet} (h : ∀ r ∈ rules, r.Written) :
    Text.lines rules.toText = rules.map Rule.toText := by
  induction rules with
  | nil => rfl
  | cons r rules ih =>
    have hr : r.Written := h r List.mem_cons_self
    have hrules := ih fun s hs => h s (List.mem_cons_of_mem r hs)
    have htext : RuleSet.toText (r :: rules) = r.toText ++ '\n' :: RuleSet.toText rules := by
      rw [RuleSet.toText, List.flatMap_cons, List.append_assoc]
      rfl
    rw [htext, Text.lines_append _ hr.no_newline hr.getLast?_ne, hrules, List.map_cons]

/-- The entry of a written rule has that rule. -/
theorem rule_make {r : Rule} (h : r.Written) (n : Nat) :
    (Entry.make {} n r.matcher.toText (escapeSpaces false r.replacement)).rule = r := by
  show Rule.mk (Matcher.ofToken r.matcher.toText).1
    (unescapeSpaces (escapeSpaces false r.replacement)) = r
  rw [h.matcher, unescapeSpaces_escapeSpaces]

theorem readLines_toText {rules : RuleSet} (h : ∀ r ∈ rules, r.Written) (n : Nat) :
    (readLines {} n (rules.map Rule.toText)).rules = .ok rules := by
  induction rules generalizing n with
  | nil => rfl
  | cons r rules ih =>
    have hr : r.Written := h r List.mem_cons_self
    have hrules := ih (fun s hs => h s (List.mem_cons_of_mem r hs)) (n + 1)
    rw [List.map_cons, readLines, hr.ofText_toText]
    dsimp only
    rw [Outcome.rules_cons, hrules, rule_make hr]
    rfl

end Mapping

theorem RuleSet.same_refl (rules : RuleSet) : rules.same rules = true := by
  induction rules with
  | nil => rfl
  | cons r rules ih =>
    have hr : r.same r = true := by simp [Rule.same, Matcher.same_refl]
    rw [same, hr, ih]
    rfl

/-- The rules that are read from a mapping text are read again from the text that is written for
them. -/
theorem Mapping.parse_toText {text : List Char} {rules : RuleSet} (h : parse text = .ok rules) :
    parse rules.toText = .ok rules ∧ rules.same rules = true := by
  have hwritten := written_of_parse h
  refine ⟨?_, rules.same_refl⟩
  rw [parse, read, lines_toText hwritten, readLines_toText hwritten]

theorem Mapping.parse_toText_comments :
    ∃ rules, parse "# letters\n/a/yg => \\sb\\\\s # spaces\n\nx y =>".toList = .ok rules ∧
      rules.toText = "/a/gy\t =>\\sb\\\\s\nx y\t =>\n".toList ∧
      parse "/a/gy\t =>\\sb\\\\s\nx y\t =>\n".toList = .ok rules := by
  obtain ⟨rules, h, htext⟩ :
      ∃ rules, parse "# letters\n/a/yg => \\sb\\\\s # spaces\n\nx y =>".toList = .ok rules ∧
        rules.toText = "/a/gy\t =>\\sb\\\\s\nx y\t =>\n".toList :=
    ⟨_, rfl, by cbv⟩
  refine ⟨rules, h, htext, ?_⟩
  rw [← htext]
  exact (parse_toText h).1

end Remap
