import Remap.Proofs.Pattern.Rendering
/-!
# Tokens for groups that are missing

A template can ask for a group that the pattern does not have. If it does so by a number, or by a
name where no group of the pattern has one, the token stands for itself. Where other groups have
names, a token with a name that none of them has stands for nothing.

What stands before a token is read by itself: `StandsBefore` says that its last token or character
ends where the token begins.

Main statements: `items_append` and `expand_missing`.
-/

namespace Remap.Template

variable {shape : Shape} {rest : List Char}

/-! ## Templates in two parts -/

/-- A text that stands before the rest of a template, so that none of its tokens runs on into the
rest. It depends on whether groups have names if `$<` begins a token. -/
inductive StandsBefore (named : Bool) (rest : List Char) : List Char → Prop
  | nil : StandsBefore named rest []
  | char {c : Char} {cs : List Char} : c ≠ '$' → StandsBefore named rest cs →
      StandsBefore named rest (c :: cs)
  /-- A dollar and the character behind it are a token, or the beginning of one with another digit,
  or stand for themselves. -/
  | pair {c : Char} {cs : List Char} : c ≠ '<' → StandsBefore named rest cs →
      StandsBefore named rest ('$' :: c :: cs)
  | name {name cs : List Char} : named = true → '>' ∉ name → StandsBefore named rest cs →
      StandsBefore named rest ('$' :: '<' :: (name ++ '>' :: cs))
  /-- Without an end there is no name. -/
  | bracket {cs : List Char} : (named = true → '>' ∉ cs ++ rest) → StandsBefore named rest cs →
      StandsBefore named rest ('$' :: '<' :: cs)

/-- The number of a group is read from the digits in front, whatever stands behind them. -/
theorem readNumber_append (h : ∀ c, rest.head? = some c → digit? c = none) (d : Nat)
    (cs : List Char) :
    readNumber shape d (cs ++ rest) =
      (readNumber shape d cs).map fun x => (x.1, x.2 ++ rest) := by
  unfold readNumber
  -- the second digit may be the first character of `rest`, which is none
  cases cs with
  | nil =>
    cases rest with
    | nil => cases groupNumber? shape d <;> rfl
    | cons c rest =>
      rw [List.nil_append]
      dsimp only
      rw [h c rfl]
      cases groupNumber? shape d <;> rfl
  | cons e cs =>
    rw [List.cons_append]
    dsimp only
    cases (digit? e).bind fun e => groupNumber? shape (d * 10 + e) with
    | none => cases groupNumber? shape d <;> rfl
    | some n => rfl

theorem cases_of_readNumber {d n : Nat} {cs tail : List Char}
    (h : readNumber shape d cs = some (n, tail)) : cs = tail ∨ ∃ e, e ≠ '$' ∧ cs = e :: tail := by
  unfold readNumber at h
  rcases Option.or_eq_some_iff.mp h with h | ⟨-, h⟩
  · cases cs with
    | nil => cases h
    | cons e cs =>
      obtain ⟨k, hk, hpair⟩ := Option.map_eq_some_iff.mp h
      obtain ⟨d', hd', -⟩ := Option.bind_eq_some_iff.mp hk
      cases hpair
      refine .inr ⟨e, ?_, rfl⟩
      rintro rfl
      cases hd'
  · obtain ⟨k, -, hpair⟩ := Option.map_eq_some_iff.mp h
    cases hpair
    exact .inl rfl

/-- After a dollar, a grave accent is a token, and no other character without a meaning of its own. -/
theorem readToken_of_ne (shape : Shape) {c : Char} (hd : digit? c = none) (hbracket : c ≠ '<')
    (hdollar : c ≠ '$') (hwhole : c ≠ '&') (hafter : c ≠ '\'') (cs : List Char) :
    readToken shape (c :: cs) =
      if c = Char.ofNat 0x60 then (.before, cs) else (.char '$', c :: cs) := by
  rw [readToken, hd]
  · rfl
  · exact hdollar
  · exact hwhole
  · exact hafter
  · exact hbracket

/-- After a dollar, a character that is neither a digit nor a bracket is a token, or none begins. -/
theorem readToken_cases (shape : Shape) {c : Char} (hd : digit? c = none) (hc : c ≠ '<') :
    (∃ item, ∀ cs, readToken shape (c :: cs) = (item, cs)) ∨
      c ≠ '$' ∧ ∀ cs, readToken shape (c :: cs) = (.char '$', c :: cs) := by
  by_cases hdollar : c = '$'
  · exact .inl ⟨.char '$', fun cs => by rw [hdollar, readToken]⟩
  by_cases hwhole : c = '&'
  · exact .inl ⟨.whole, fun cs => by rw [hwhole, readToken]⟩
  by_cases hafter : c = '\''
  · exact .inl ⟨.after, fun cs => by rw [hafter, readToken]⟩
  have hread := readToken_of_ne shape hd hc hdollar hwhole hafter
  by_cases hbefore : c = Char.ofNat 0x60
  · exact .inl ⟨.before, fun cs => by rw [hread, if_pos hbefore]⟩
  · exact .inr ⟨hdollar, fun cs => by rw [hread, if_neg hbefore]⟩

/-- A dollar and the character behind it are read as they are without the rest of the template. -/
theorem items_pair_append {c : Char} {cs : List Char}
    (hrest : ∀ c, rest.head? = some c → digit? c = none) (hc : c ≠ '<')
    (h : items shape (cs ++ rest) = items shape cs ++ items shape rest) :
    items shape ('$' :: c :: (cs ++ rest)) =
      items shape ('$' :: c :: cs) ++ items shape rest := by
  rw [items_dollar, items_dollar, List.cons_append]
  cases hd : digit? c with
  | none =>
    rcases readToken_cases shape hd hc with ⟨item, hread⟩ | ⟨hne, hread⟩
    · rw [hread, hread, h]
    · rw [hread, hread, items_cons hne, items_cons hne, h, List.cons_append]
  | some d =>
    have hne : c ≠ '$' := by
      rintro rfl
      cases hd
    rw [readToken_of_digit hd, readToken_of_digit hd, readNumber_append hrest]
    cases hn : readNumber shape d cs with
    | none =>
      show Item.char '$' :: items shape (c :: (cs ++ rest)) = _
      rw [items_cons hne, h]
      dsimp only
      rw [items_cons hne, List.cons_append]
    | some x =>
      obtain ⟨n, tail⟩ := x
      -- what is behind the number is read alike, whether or not a second digit belongs to it
      have htail : items shape (tail ++ rest) = items shape tail ++ items shape rest := by
        rcases cases_of_readNumber hn with rfl | ⟨e, he, rfl⟩
        · exact h
        · rw [List.cons_append, items_cons he, items_cons he, List.cons_append] at h
          exact (List.cons.inj h).2
      show Item.group n :: items shape (tail ++ rest) = _
      rw [htail]

/-- The text before the rest of a template is read by itself. -/
theorem items_append {front : List Char} (h : StandsBefore shape.named rest front)
    (hrest : ∀ c, rest.head? = some c → digit? c = none) :
    items shape (front ++ rest) = items shape front ++ items shape rest := by
  induction h with
  | nil => rw [items, List.nil_append, List.nil_append]
  | char hc _ ih => rw [List.cons_append, items_cons hc, items_cons hc, ih, List.cons_append]
  | pair hc _ ih => exact items_pair_append hrest hc ih
  | @name name cs hnamed hname _ ih =>
    have htext : '$' :: '<' :: (name ++ '>' :: cs) ++ rest =
        '$' :: '<' :: (name ++ '>' :: (cs ++ rest)) := by simp
    rw [htext, items_dollar, items_dollar, readToken_name hnamed hname, readToken_name hnamed hname,
      ih, List.cons_append]
  -- a bracket that is not closed in `cs` is not closed in `rest` either
  | @bracket cs hend _ ih =>
    have hopen : ¬ (shape.named = true ∧ '>' ∈ cs ++ rest) := fun hn => hend hn.1 hn.2
    have hopen' : ¬ (shape.named = true ∧ '>' ∈ cs) := fun hn =>
      hend hn.1 (List.mem_append_left rest hn.2)
    have hbracket : '<' ≠ '$' := by decide
    rw [List.cons_append, List.cons_append, items_dollar, items_dollar, readToken, if_neg hopen,
      readToken, if_neg hopen', items_cons hbracket, items_cons hbracket, ih]
    rfl

theorem expand_append {front : List Char} (h : StandsBefore shape.named rest front)
    (hrest : ∀ c, rest.head? = some c → digit? c = none) (m : Matched) :
    expand shape m (front ++ rest) = expand shape m front ++ expand shape m rest := by
  rw [expand, items_append h hrest, List.flatMap_append]
  rfl

theorem expand_text_append {text : List Char} (h : '$' ∉ text) (m : Matched) :
    expand shape m (text ++ rest) = text ++ expand shape m rest := by
  induction text with
  | nil => rfl
  | cons c text ih =>
    rw [List.mem_cons, not_or] at h
    rw [List.cons_append, expand, items_cons (Ne.symm h.1), List.flatMap_cons]
    exact congrArg (c :: ·) (ih h.2)

/-! ## Tokens for missing groups -/

/-- The pattern has a group of this number. -/
def HasGroup (p : Pattern) (n : Nat) : Prop := 1 ≤ n ∧ n ≤ p.regex.groupCount

/-- A token, with `back` behind it, that asks for a group that the pattern does not have. -/
inductive Missing (p : Pattern) (back : List Char) : List Char → Prop
  /-- There is no group of one digit, and none of two if another digit follows. -/
  | digit {c : Char} {d : Nat} : digit? c = some d → ¬ HasGroup p d →
      (∀ e d', back.head? = some e → digit? e = some d' → ¬ HasGroup p (d * 10 + d')) →
      Missing p back ['$', c]
  /-- There is no group of these two digits, nor one of the first alone. -/
  | digits {c e : Char} {d d' : Nat} : digit? c = some d → digit? e = some d' →
      ¬ HasGroup p (d * 10 + d') → ¬ HasGroup p d → Missing p back ['$', c, e]
  /-- There is no group of this name. -/
  | name {name : List Char} : '>' ∉ name → (∀ n, (name, n) ∉ p.regex.names) →
      Missing p back ('$' :: '<' :: (name ++ ['>']))

theorem readNumber_eq_none {p : Pattern} {d : Nat} {cs : List Char} (h : ¬ HasGroup p d)
    (htwo : ∀ e d', cs.head? = some e → digit? e = some d' → ¬ HasGroup p (d * 10 + d')) :
    readNumber p.shape d cs = none := by
  have hnumber : ∀ n, ¬ HasGroup p n → groupNumber? p.shape n = none := fun _ hn => if_neg hn
  unfold readNumber
  rw [hnumber d h]
  cases cs with
  | nil => rfl
  | cons e cs =>
    dsimp only
    cases hd : digit? e with
    | none => rfl
    | some d' =>
      rw [Option.bind_some, hnumber _ (htwo e d' rfl hd)]
      rfl

/-- A dollar and a digit that ask for no group of the pattern stand for themselves. -/
theorem expand_digit {p : Pattern} {c : Char} {d : Nat} {cs : List Char} (hd : digit? c = some d)
    (h : ¬ HasGroup p d)
    (htwo : ∀ e d', cs.head? = some e → digit? e = some d' → ¬ HasGroup p (d * 10 + d'))
    (m : Matched) : expand p.shape m ('$' :: c :: cs) = '$' :: c :: expand p.shape m cs := by
  have hne : c ≠ '$' := by
    rintro rfl
    cases hd
  rw [expand, items_dollar, readToken_of_digit hd, readNumber_eq_none h htwo]
  dsimp only
  rw [items_cons hne]
  rfl

theorem expand_digits {p : Pattern} {c e : Char} {d d' : Nat} {cs : List Char}
    (hd : digit? c = some d) (he : digit? e = some d') (htwo : ¬ HasGroup p (d * 10 + d'))
    (hone : ¬ HasGroup p d) (m : Matched) :
    expand p.shape m ('$' :: c :: e :: cs) = '$' :: c :: e :: expand p.shape m cs := by
  have hpair : ∀ x y, (e :: cs).head? = some x → digit? x = some y →
      ¬ HasGroup p (d * 10 + y) := by
    intro x y hx hy
    cases hx
    rw [he] at hy
    cases hy
    exact htwo
  have hne : '$' ∉ [e] := by
    rw [List.mem_singleton]
    rintro rfl
    cases he
  have hsecond : expand p.shape m (e :: cs) = e :: expand p.shape m cs := expand_text_append hne m
  rw [expand_digit hd hone hpair, hsecond]

/-- Where no group has a name, `$<` begins no token. -/
theorem expand_bracket (h : shape.named = false) (m : Matched) (cs : List Char) :
    expand shape m ('$' :: '<' :: cs) = '$' :: '<' :: expand shape m cs := by
  rw [expand, items_dollar, readToken, if_neg (by simp [h]), items_cons (by decide)]
  rfl

/-- Where groups have names, a name that none of them has stands for nothing. -/
theorem expand_name {p : Pattern} (hnamed : p.shape.named = true) {name : List Char}
    (hend : '>' ∉ name) (h : ∀ n, (name, n) ∉ p.regex.names) (haystack : List Char)
    (m : Regex.Match) (back : List Char) :
    expand p.shape (p.matched haystack m) ('$' :: '<' :: (name ++ '>' :: back)) =
      expand p.shape (p.matched haystack m) back := by
  -- the name is consumed with its brackets, and its group has no text
  have hlookup : p.regex.names.lookup name = none := by
    rw [List.lookup_eq_none_iff]
    rintro ⟨other, n⟩ hmem
    rw [bne_iff_ne]
    rintro rfl
    exact h n hmem
  have hvalue : (p.matched haystack m).named name = [] := by
    rw [Part.named_matched, hlookup]
    rfl
  rw [expand, items_dollar, readToken_name hnamed hend, List.flatMap_cons]
  show (p.matched haystack m).named name ++ _ = _
  rw [hvalue]
  rfl

/-- A token for a missing group stands for itself, if it is a number, or if it is a name without a
dollar and no group of the pattern has a name. If groups have names, a name that none of them has
is left out. -/
theorem expand_missing {p : Pattern} {front token back : List Char} (h : Missing p back token)
    (hfront : StandsBefore p.shape.named (token ++ back) front) (haystack : List Char)
    (m : Regex.Match) :
    ((∀ name, token = '$' :: '<' :: (name ++ ['>']) → p.regex.names = [] ∧ '$' ∉ name) →
      expand p.shape (p.matched haystack m) (front ++ (token ++ back)) =
        expand p.shape (p.matched haystack m) front ++
          (token ++ expand p.shape (p.matched haystack m) back)) ∧
    (∀ name, token = '$' :: '<' :: (name ++ ['>']) → p.regex.names ≠ [] →
      expand p.shape (p.matched haystack m) (front ++ (token ++ back)) =
        expand p.shape (p.matched haystack m) front ++
          expand p.shape (p.matched haystack m) back) := by
  have hdollar : ∀ c, (token ++ back).head? = some c → digit? c = none := by
    intro c hc
    cases h <;> cases hc <;> rfl
  rw [expand_append hfront hdollar]
  -- digits are copied in any case, a name only if the pattern has no names at all
  cases h with
  | @digit c d hd hone htwo =>
    refine ⟨fun _ => congrArg _ (expand_digit hd hone htwo _), ?_⟩
    intro name heq
    simp at heq
  | @digits c e d d' hd he htwo hone =>
    refine ⟨fun _ => congrArg _ (expand_digits hd he htwo hone _), ?_⟩
    intro name heq
    have hbracket : c = '<' := (List.cons.inj (List.cons.inj heq).2).1
    rw [hbracket] at hd
    cases hd
  | @name name hend hname =>
    have htext : '$' :: '<' :: (name ++ ['>']) ++ back = '$' :: '<' :: (name ++ '>' :: back) := by
      simp
    rw [htext]
    constructor
    · intro hplain
      obtain ⟨hnames, hno⟩ := hplain name rfl
      have hnamed : p.shape.named = false := by simp [Pattern.shape, hnames]
      have hno' : '$' ∉ name ++ ['>'] := by simp [hno]
      rw [expand_bracket hnamed, List.append_cons name '>' back, expand_text_append hno']
      rfl
    · intro other heq hnames
      have hnamed : p.shape.named = true := by simpa [Pattern.shape] using hnames
      rw [expand_name hnamed hend hname]

/-- With one group, neither `$20` nor `$2` is a token for it. -/
theorem expand_missing_number :
    ∃ p, Pattern.compile "(b)".toList [] = .ok p ∧ Missing p "0]".toList "$2".toList ∧
      StandsBefore p.shape.named "$20]".toList "$$1$1[".toList ∧
      ∀ m, expand p.shape (p.matched ['b'] m) "$$1$1[$20]".toList =
        expand p.shape (p.matched ['b'] m) "$$1$1[".toList ++
          ("$2".toList ++ expand p.shape (p.matched ['b'] m) "0]".toList) := by
  obtain ⟨p, hp, hcount⟩ :
      ∃ p, Pattern.compile "(b)".toList [] = .ok p ∧ p.regex.groupCount = 1 := ⟨_, rfl, rfl⟩
  have hgroup : ∀ n, 2 ≤ n → ¬ HasGroup p n := by
    rintro n hn ⟨-, hle⟩
    omega
  have hmissing : Missing p "0]".toList "$2".toList :=
    .digit (c := '2') (d := 2) rfl (hgroup 2 (by omega)) fun e d' _ _ => hgroup _ (by omega)
  have hfront : StandsBefore p.shape.named "$20]".toList "$$1$1[".toList :=
    .pair (by decide) (.char (by decide) (.pair (by decide) (.char (by decide) .nil)))
  refine ⟨p, hp, hmissing, hfront, fun m => ?_⟩
  refine (expand_missing hmissing hfront ['b'] m).1 fun name heq => ?_
  cases heq

/-- A name that no group has is left out, if another group has a name. -/
theorem replace_missing_name :
    ∃ p, Pattern.compile "(?<_>b)".toList [] = .ok p ∧ Missing p "]".toList "$<x>".toList ∧
      p.replace "b".toList "[$<x>]".toList = "[]".toList := by
  obtain ⟨p, hp, hnames, hreplace⟩ : ∃ p, Pattern.compile "(?<_>b)".toList [] = .ok p ∧
      p.regex.names = [(['_'], 1)] ∧ p.replace "b".toList "[$<x>]".toList = "[]".toList :=
    ⟨_, rfl, rfl, by cbv⟩
  have hx : ∀ n, (['x'], n) ∉ p.regex.names := by simp [hnames]
  exact ⟨p, hp, .name (by decide) hx, hreplace⟩

end Remap.Template
