import Remap.Mapping.Parser
import Remap.Proofs.Text.Line
/-!
# Mapping texts one after the other

A mapping text that ends its last line can be followed by another one. What is read then is what the
first one gives, and, unless that has an invalid line, what the second one gives, its lines counted
on. So the rules of the second text work on what those of the first one make of a text.

Main statements: `readLines_append`, `read_append` and `append_composes`.
-/

namespace Remap.Mapping

/-! ## Outcomes -/

/-- The outcome of lines that have `k` others before them. -/
def Outcome.shift (k : Nat) (o : Outcome) : Outcome where
  entries := o.entries.map fun e => { e with line := e.line + k }
  invalid := o.invalid.map fun e => { e with line := e.line + k }

/-- The outcome of lines with others behind them: an invalid line stops the reading. -/
def Outcome.andThen (o next : Outcome) : Outcome :=
  match o.invalid with
  | some _ => o
  | none => { entries := o.entries ++ next.entries, invalid := next.invalid }

namespace Outcome

variable {o next : Outcome} {rules : RuleSet} {e : InvalidLine}

/-- Counting on changes the number of the invalid line only. -/
theorem rules_shift (k : Nat) (o : Outcome) :
    (o.shift k).rules = o.rules.mapError fun e => { e with line := e.line + k } := by
  unfold rules shift
  cases o.invalid with
  | some e => rfl
  | none =>
    show Except.ok ((o.entries.map _).map Entry.rule) = Except.ok (o.entries.map Entry.rule)
    rw [List.map_map]
    rfl

@[simp] theorem rejections_shift (k : Nat) (o : Outcome) :
    (o.shift k).rejections = o.rejections := by
  rw [rejections, rejections, shift, List.filterMap_map]
  rfl

theorem invalid_of_ok (h : o.rules = .ok rules) : o.invalid = none := by
  unfold Outcome.rules at h
  split at h
  · cases h
  · assumption

theorem invalid_of_error (h : o.rules = .error e) : o.invalid = some e := by
  unfold Outcome.rules at h
  split at h
  next heq => rw [heq, Except.error.inj h]
  next => cases h

theorem andThen_of_error (h : o.rules = .error e) : o.andThen next = o := by
  rw [andThen, invalid_of_error h]

/-- An entry in front stays in front. -/
theorem andThen_cons (entry : Entry) (o next : Outcome) :
    andThen { o with entries := entry :: o.entries } next =
      { o.andThen next with entries := entry :: (o.andThen next).entries } := by
  obtain ⟨entries, invalid⟩ := o
  cases invalid <;> rfl

theorem rejections_andThen_of_ok (h : o.rules = .ok rules) :
    (o.andThen next).rejections = o.rejections ++ next.rejections := by
  rw [andThen, invalid_of_ok h]
  exact List.filterMap_append

theorem rules_andThen_of_ok (h : o.rules = .ok rules) :
    (o.andThen next).rules = next.rules.map (rules ++ ·) := by
  have hnone := invalid_of_ok h
  have hrules : o.entries.map Entry.rule = rules := by
    rw [Outcome.rules, hnone] at h
    exact Except.ok.inj h
  rw [andThen, hnone, Outcome.rules, Outcome.rules]
  cases next.invalid with
  | some e => rfl
  | none =>
    show Except.ok ((o.entries ++ next.entries).map Entry.rule) = _
    rw [List.map_append, hrules]
    rfl

end Outcome

/-! ## Reading -/

variable (s : MappingSyntax)

theorem readLines_add (n k : Nat) (lines : List (List Char)) :
    readLines s (n + k) lines = (readLines s n lines).shift k := by
  induction lines generalizing n with
  | nil => rfl
  | cons line rest ih =>
    have hnext : readLines s (n + k + 1) rest = (readLines s (n + 1) rest).shift k := by
      rw [Nat.add_right_comm, ih]
    rw [readLines, readLines, hnext]
    cases Line.ofText s line <;> rfl

/-- Lines are read up to the first invalid one, and then those behind them. -/
theorem readLines_append (n : Nat) (front back : List (List Char)) :
    readLines s n (front ++ back) =
      (readLines s n front).andThen (readLines s (n + front.length) back) := by
  induction front generalizing n with
  | nil => rfl
  | cons line rest ih =>
    have hnext : readLines s (n + 1) (rest ++ back) =
        (readLines s (n + 1) rest).andThen (readLines s (n + (rest.length + 1)) back) := by
      rw [ih, Nat.add_right_comm, Nat.add_assoc]
    rw [List.cons_append, List.length_cons, readLines, readLines]
    cases Line.ofText s line with
    | passed => exact hnext
    | invalid => rfl
    | rule token replacement =>
      dsimp only
      rw [hnext]
      exact (Outcome.andThen_cons _ _ _).symm

/-- The rules of lines are those of the first lines and those of the rest, whatever stands in place
of the rest. -/
theorem exists_rules_append {n : Nat} {front back : List (List Char)} {rules : RuleSet}
    (h : (readLines s n (front ++ back)).rules = .ok rules) :
    ∃ first others, rules = first ++ others ∧
      (readLines s (n + front.length) back).rules = .ok others ∧
      ∀ back', (readLines s n (front ++ back')).rules =
        (readLines s (n + front.length) back').rules.map (first ++ ·) := by
  rw [readLines_append] at h
  -- an error in front would be that of the whole, whatever comes behind it
  cases hfront : (readLines s n front).rules with
  | error e =>
    rw [Outcome.andThen_of_error hfront, hfront] at h
    cases h
  | ok first =>
    rw [Outcome.rules_andThen_of_ok hfront] at h
    cases hback : (readLines s (n + front.length) back).rules with
    | error e =>
      rw [hback] at h
      cases h
    | ok others =>
      rw [hback] at h
      refine ⟨first, others, (Except.ok.inj h).symm, rfl, fun back' => ?_⟩
      rw [readLines_append, Outcome.rules_andThen_of_ok hfront]

theorem read_append {a : List Char} (h : Text.EndsLine a) (b : List Char) :
    read s (a ++ b) = (read s a).andThen ((read s b).shift (a.count '\n')) := by
  rw [read, Text.lines_append_of_ends b h, readLines_append, Text.length_lines_of_ends h,
    readLines_add]
  rfl

/-! ## Texts -/

/-- A mapping text that ends its last line can be followed by another one. If it is invalid, so is
the whole, with the same error and the same rejections. If not, the rejections of the second text
follow its own; an error of the second text comes with its lines counted on, and otherwise the rules
of the second text follow those of the first, which is to apply them to what the first ones give. -/
theorem append_composes {a : List Char} (h : Text.EndsLine a) (b : List Char) :
    (∀ e, (read s a).rules = .error e →
      (read s (a ++ b)).rules = .error e ∧
        (read s (a ++ b)).rejections = (read s a).rejections) ∧
    (∀ rules, (read s a).rules = .ok rules →
      (read s (a ++ b)).rejections = (read s a).rejections ++ (read s b).rejections ∧
      (∀ k line, (read s b).rules = .error ⟨k, line⟩ →
        (read s (a ++ b)).rules = .error ⟨a.count '\n' + k, line⟩) ∧
      ∀ others, (read s b).rules = .ok others →
        (read s (a ++ b)).rules = .ok (rules ++ others)) ∧
    ∀ rules others, parse a = .ok rules → parse b = .ok others → ∀ text, ∃ between after,
      computeOutput text a = .ok between ∧ computeOutput between b = .ok after ∧
        computeOutput text (a ++ b) = .ok after := by
  refine ⟨?_, ?_, ?_⟩
  · intro e he
    rw [read_append s h, Outcome.andThen_of_error he]
    exact ⟨he, rfl⟩
  · intro rules hrules
    refine ⟨?_, ?_, ?_⟩
    -- lines are numbered on from those of `a`, which rejections do not mention
    · rw [read_append s h, Outcome.rejections_andThen_of_ok hrules, Outcome.rejections_shift]
    · intro k line hb
      rw [read_append s h, Outcome.rules_andThen_of_ok hrules, Outcome.rules_shift, hb,
        Nat.add_comm]
      rfl
    · intro others hb
      rw [read_append s h, Outcome.rules_andThen_of_ok hrules, Outcome.rules_shift, hb]
      rfl
  · intro rules others ha hb text
    have hab : parse (a ++ b) = .ok (rules ++ others) := by
      rw [parse, read_append {} h, Outcome.rules_andThen_of_ok ha, Outcome.rules_shift,
        show (read {} b).rules = .ok others from hb]
      rfl
    refine ⟨rules.applyAll text, others.applyAll (rules.applyAll text), ?_, ?_, ?_⟩
    · rw [computeOutput, ha]
      rfl
    · rw [computeOutput, hb]
      rfl
    · rw [computeOutput, hab, ← RuleSet.applyAll_append]
      rfl

theorem append_composes_counting_on :
    Text.EndsLine "a => b\r\n\n".toList ∧
      (read {} "# c\nd".toList).rules = .error ⟨2, "d".toList⟩ ∧
      (read {} ("a => b\r\n\n".toList ++ "# c\nd".toList)).rules = .error ⟨4, "d".toList⟩ ∧
      computeOutput "a".toList ("a => b\r\n\n".toList ++ "b => c".toList) = .ok "c".toList := by
  have hends : Text.EndsLine "a => b\r\n\n".toList := .inr rfl
  have hd : (read {} "# c\nd".toList).rules = .error ⟨2, "d".toList⟩ := by rfl
  obtain ⟨rules, hrules⟩ : ∃ rules, parse "a => b\r\n\n".toList = .ok rules := ⟨_, rfl⟩
  obtain ⟨others, hothers⟩ : ∃ others, parse "b => c".toList = .ok others := ⟨_, rfl⟩
  have hfirst := append_composes {} hends "# c\nd".toList
  have hsecond := append_composes {} hends "b => c".toList
  refine ⟨hends, hd, (hfirst.2.1 rules hrules).2.1 _ _ hd, ?_⟩
  obtain ⟨between, after, ha, hb, hab⟩ := hsecond.2.2 rules others hrules hothers "a".toList
  have hbetween : between = "b".toList := by
    have : computeOutput "a".toList "a => b\r\n\n".toList = .ok "b".toList := by cbv
    exact Except.ok.inj (ha.symm.trans this)
  subst hbetween
  have hafter : computeOutput "b".toList "b => c".toList = .ok "c".toList := by cbv
  rw [hab, ← hb, hafter]

end Remap.Mapping
