import Remap.Proofs.Pattern.Missing
import Remap.Proofs.Pattern.Replacement
import Remap.Proofs.Text.Bytes
/-!
# Expanding templates by offsets

A template can be expanded without taking it apart into characters: a token is known by the bytes
behind its dollar, and what it takes of the template is cut off by a number of bytes. `takeToken?`
and `expandWithin?` do this, and give nothing if a part is asked for that is not there: between
offsets where no character ends, at a place outside the text, or of a group that the pattern does not
have. This never happens for a match of the pattern, and what they give is the expansion of the
template.

Main statements: `takes_readToken` and `expandWithin?_count`.
-/

namespace Remap

/-- The number of bytes before a place of a text, if the text reaches so far. -/
def placeOffset? (text : List Char) (pos : Nat) : Option Nat :=
  if pos ≤ text.length then some (byteCount (text.take pos)) else none

namespace Template

open Text (byte bytes firstByte offset? slice?)

/-- The value of a byte that is a decimal digit. -/
def byteDigit? (b : UInt8) : Option Nat :=
  if 48 ≤ b.toNat ∧ b.toNat ≤ 57 then some (b.toNat - 48) else none

section

variable (p : Pattern) (text : List Char) (m : Regex.Match)

/-- The text of a group, if the pattern has one of this number. A group that took no part in the
match has the empty text. -/
def askGroup? (n : Nat) : Option (List Char) :=
  if 1 ≤ n ∧ n ≤ p.regex.groupCount then some ((p.matched text m).group n) else none

/-- What a dollar stands for that has a digit behind it and perhaps another one, and how many bytes
are taken. -/
def takeNumber? (first : Nat) (second : Option Nat) : Option (List Char × Nat) :=
  match second.bind fun d => groupNumber? p.shape (first * 10 + d) with
  | some n => (askGroup? p text m n).map fun value => (value, 3)
  | none =>
    match groupNumber? p.shape first with
    | some n => (askGroup? p text m n).map fun value => (value, 2)
    | none => some (['$'], 1)

/-- What the token at the start of a template stands for, and how many bytes it takes. -/
def takeToken? (token : List Char) : Option (List Char × Nat) :=
  match (bytes token)[1]? with
  | none => some (['$'], 1)
  | some b =>
    if b = byte '$' then some (['$'], 2)
    else if b = byte '&' then do
      let start ← placeOffset? text m.start
      let stop ← placeOffset? text m.stop
      let whole ← slice? start stop text
      return (whole, 2)
    else if b = byte (Char.ofNat 0x60) then do
      let start ← placeOffset? text m.start
      let before ← slice? 0 start text
      return (before, 2)
    else if b = byte '\'' then do
      let stop ← placeOffset? text m.stop
      let after ← slice? stop (byteCount text) text
      return (after, 2)
    else
      match byteDigit? b with
      | some first => takeNumber? p text m first ((bytes token)[2]?.bind byteDigit?)
      | none =>
        if b = byte '<' ∧ p.shape.named = true then
          match offset? '>' token with
          | some close => do
            let name ← slice? 2 close token
            return ((p.matched text m).named name, close + 1)
          | none => some (['$'], 1)
        else some (['$'], 1)

/-- Expands a template that has no more than `limit` tokens. -/
def expandWithin? (limit : Nat) (template : List Char) : Option (List Char) :=
  match offset? '$' template with
  | none => some template
  | some pos =>
    match limit with
    | 0 => none
    | limit + 1 => do
      let front ← slice? 0 pos template
      let token ← slice? pos (byteCount template) template
      let (value, used) ← takeToken? p text m token
      let rest ← slice? used (byteCount token) token
      let back ← expandWithin? limit rest
      return front ++ value ++ back

end

/-! ## Bytes behind a dollar -/

theorem isDigit_iff (c : Char) : c.isDigit = true ↔ 48 ≤ c.toNat ∧ c.toNat ≤ 57 := by
  simp only [Char.isDigit, Bool.and_eq_true, decide_eq_true_eq]
  exact Iff.rfl

/-- A digit is known by its byte. -/
theorem byteDigit?_firstByte (c : Char) : byteDigit? (firstByte c) = digit? c := by
  unfold byteDigit? digit?
  by_cases hc : c.toNat < 128
  · rw [Text.firstByte_of_lt hc, Text.toNat_byte hc]
    simp only [isDigit_iff]
  · have hbyte := Text.le_toNat_firstByte (Nat.not_lt.mp hc)
    rw [if_neg (by omega), if_neg (by rw [isDigit_iff]; omega)]

theorem lt_of_digit? {c : Char} {d : Nat} (h : digit? c = some d) : c.toNat < 128 := by
  by_contra hc
  have hbyte := Text.le_toNat_firstByte (Nat.not_lt.mp hc)
  rw [← byteDigit?_firstByte, byteDigit?, if_neg (by omega)] at h
  cases h

theorem utf8Size_of_digit? {c : Char} {d : Nat} (h : digit? c = some d) : c.utf8Size = 1 :=
  Char.utf8Size_eq_one_iff.mpr (Nat.le_of_lt_succ (lt_of_digit? h))

/-- The byte behind a dollar begins the next character. -/
theorem getElem?_bytes_dollar (cs : List Char) :
    (bytes ('$' :: cs))[1]? = cs.head?.map firstByte := by
  rw [Text.getElem?_bytes_cons (by decide), Text.getElem?_bytes_zero]

/-- Behind a digit, the byte after it is known as a digit if the next character is one. -/
theorem getElem?_bytes_digit {c : Char} {d : Nat} (h : digit? c = some d) (cs : List Char) :
    (bytes ('$' :: c :: cs))[2]?.bind byteDigit? = cs.head?.bind digit? := by
  rw [Text.getElem?_bytes_cons (by decide), Text.getElem?_bytes_cons (lt_of_digit? h),
    Text.getElem?_bytes_zero]
  cases cs with
  | nil => rfl
  | cons e cs => exact byteDigit?_firstByte e

/-! ## Single tokens -/

/-- Known by its bytes, the token of a dollar and `cs` behind it is taken for an item, and `rest` is
left behind the last of its bytes. -/
def Takes (p : Pattern) (text : List Char) (m : Regex.Match) (cs : List Char) (item : Item)
    (rest : List Char) : Prop :=
  ∃ used, cs = used ++ rest ∧
    takeToken? p text m ('$' :: cs) =
      some (item.value (p.matched text m), byteCount ('$' :: used))

section

variable {p : Pattern} {text : List Char} {m : Regex.Match}

/-- A text is what stands before a match, the match, and what stands after it, and its places are at
the ends of these parts. -/
theorem exists_parts (p : Pattern) (h : m.LiesFrom text.toArray 0) :
    ∃ before whole after, text = before ++ whole ++ after ∧
      placeOffset? text m.start = some (byteCount before) ∧
      placeOffset? text m.stop = some (byteCount (before ++ whole)) ∧
      (p.matched text m).before = before ∧ (p.matched text m).whole = whole ∧
      (p.matched text m).after = after := by
  have hle := h.le
  have hstop : m.stop ≤ text.length := h.stop_le
  have hfront : text.take m.start ++ slice text m.start m.stop = text.take m.stop := by
    have hadd : m.stop = m.start + (m.stop - m.start) := by omega
    rw [slice, hadd, Nat.add_sub_cancel_left, List.take_add]
  refine ⟨text.take m.start, slice text m.start m.stop, text.drop m.stop, ?_, ?_, ?_, rfl, rfl, rfl⟩
  · rw [hfront, List.take_append_drop]
  · exact if_pos (hle.trans hstop)
  · rw [hfront]
    exact if_pos hstop

theorem takes_nil : Takes p text m [] (.char '$') [] := by
  refine ⟨[], rfl, ?_⟩
  rw [takeToken?, getElem?_bytes_dollar]
  rfl

theorem takes_dollar (cs : List Char) : Takes p text m ('$' :: cs) (.char '$') cs := by
  refine ⟨['$'], rfl, ?_⟩
  rw [takeToken?, getElem?_bytes_dollar]
  rfl

theorem takes_whole (h : m.LiesFrom text.toArray 0) (cs : List Char) :
    Takes p text m ('&' :: cs) .whole cs := by
  obtain ⟨before, whole, after, htext, hstart, hstop, -, hwhole, -⟩ := exists_parts p h
  have hslice : slice? (byteCount before) (byteCount (before ++ whole)) text = some whole := by
    rw [htext, Text.slice?_append]
  refine ⟨['&'], rfl, ?_⟩
  rw [takeToken?, getElem?_bytes_dollar, Item.value, hwhole]
  show (do
    let start ← placeOffset? text m.start
    let stop ← placeOffset? text m.stop
    let whole ← slice? start stop text
    return (whole, 2)) = _
  rw [hstart, hstop, Option.bind_eq_bind, Option.bind_some, Option.bind_some, hslice]
  rfl

theorem takes_before (h : m.LiesFrom text.toArray 0) (cs : List Char) :
    Takes p text m (Char.ofNat 0x60 :: cs) .before cs := by
  obtain ⟨before, whole, after, htext, hstart, -, hbefore, -, -⟩ := exists_parts p h
  have hslice : slice? 0 (byteCount before) text = some before := by
    rw [htext, List.append_assoc, Text.slice?_front]
  refine ⟨[Char.ofNat 0x60], rfl, ?_⟩
  rw [takeToken?, getElem?_bytes_dollar, Item.value, hbefore]
  show (placeOffset? text m.start).bind _ = _
  rw [hstart, Option.bind_some, hslice]
  rfl

theorem takes_after (h : m.LiesFrom text.toArray 0) (cs : List Char) :
    Takes p text m ('\'' :: cs) .after cs := by
  obtain ⟨before, whole, after, htext, -, hstop, -, -, hafter⟩ := exists_parts p h
  have hslice : slice? (byteCount (before ++ whole)) (byteCount text) text = some after := by
    rw [htext, Text.slice?_back]
  refine ⟨['\''], rfl, ?_⟩
  rw [takeToken?, getElem?_bytes_dollar, Item.value, hafter]
  show (placeOffset? text m.stop).bind _ = _
  rw [hstop, Option.bind_some, hslice]
  rfl

/-- A character that is not one of the signs is not taken for one. -/
theorem takeToken?_of_ne {c : Char} (hdollar : c ≠ '$') (hwhole : c ≠ '&')
    (hbefore : c ≠ Char.ofNat 0x60) (hafter : c ≠ '\'') (cs : List Char) :
    takeToken? p text m ('$' :: c :: cs) =
      match digit? c with
      | some first => takeNumber? p text m first (cs.head?.bind digit?)
      | none =>
        if c = '<' ∧ p.shape.named = true then
          match offset? '>' ('$' :: c :: cs) with
          | some close => do
            let name ← slice? 2 close ('$' :: c :: cs)
            return ((p.matched text m).named name, close + 1)
          | none => some (['$'], 1)
        else some (['$'], 1) := by
  -- an ASCII character is told from others by its first byte
  have hbyte : ∀ {e : Char}, e.toNat < 128 → c ≠ e → firstByte c ≠ byte e :=
    fun he => mt (Text.firstByte_eq_iff he).mp
  have hbracket : firstByte c = byte '<' ↔ c = '<' := Text.firstByte_eq_iff (by decide)
  rw [takeToken?, getElem?_bytes_dollar, List.head?_cons, Option.map_some]
  dsimp only
  rw [if_neg (hbyte (by decide) hdollar), if_neg (hbyte (by decide) hwhole),
    if_neg (hbyte (by decide) hbefore), if_neg (hbyte (by decide) hafter), byteDigit?_firstByte]
  cases hd : digit? c with
  | none => simp only [hbracket]
  | some d =>
    dsimp only
    rw [getElem?_bytes_digit hd]

theorem hasGroup_of_groupNumber? {p : Pattern} {n k : Nat}
    (h : groupNumber? p.shape n = some k) : HasGroup p k := by
  unfold groupNumber? at h
  split at h
  next hn =>
    cases h
    exact hn
  next => cases h

/-- A number that was found to be one of a group is asked for as such. -/
theorem askGroup?_eq {n k : Nat} (h : groupNumber? p.shape n = some k) :
    askGroup? p text m k = some ((p.matched text m).group k) :=
  if_pos (hasGroup_of_groupNumber? h)

/-- The number of a group is read from the first digit and the character behind it. -/
theorem readNumber_eq_or (shape : Shape) (d : Nat) (cs : List Char) :
    readNumber shape d cs =
      (((cs.head?.bind digit?).bind fun e => groupNumber? shape (d * 10 + e)).map
        fun n => (n, cs.tail)).or ((groupNumber? shape d).map fun n => (n, cs)) := by
  cases cs <;> rfl

theorem takeNumber?_of_some {d n : Nat} {cs rest : List Char}
    (h : readNumber p.shape d cs = some (n, rest)) (text : List Char) (m : Regex.Match) :
    ∃ digits, cs = digits ++ rest ∧
      takeNumber? p text m d (cs.head?.bind digit?) =
        some ((p.matched text m).group n, 2 + byteCount digits) := by
  unfold takeNumber?
  rw [readNumber_eq_or] at h
  -- two digits are tried first, then the first one alone
  rcases Option.or_eq_some_iff.mp h with h | ⟨hnone, h⟩
  · obtain ⟨k, hk, hpair⟩ := Option.map_eq_some_iff.mp h
    obtain ⟨d', hsecond, hnumber⟩ := Option.bind_eq_some_iff.mp hk
    obtain ⟨e, he, hd'⟩ := Option.bind_eq_some_iff.mp hsecond
    cases hpair
    refine ⟨[e], List.eq_cons_of_mem_head? he, ?_⟩
    rw [hk]
    dsimp only
    rw [askGroup?_eq hnumber, byteCount, utf8Size_of_digit? hd']
    rfl
  · obtain ⟨k, hk, hpair⟩ := Option.map_eq_some_iff.mp h
    cases hpair
    refine ⟨[], rfl, ?_⟩
    rw [Option.map_eq_none_iff.mp hnone, hk]
    dsimp only
    rw [askGroup?_eq hk]
    rfl

theorem takeNumber?_of_none {d : Nat} {cs : List Char} (h : readNumber p.shape d cs = none) :
    takeNumber? p text m d (cs.head?.bind digit?) = some (['$'], 1) := by
  rw [readNumber_eq_or, Option.or_eq_none_iff, Option.map_eq_none_iff, Option.map_eq_none_iff] at h
  rw [takeNumber?, h.1, h.2]

theorem takes_digit {c : Char} {d : Nat} (hd : digit? c = some d) (cs : List Char) :
    Takes p text m (c :: cs) (readToken p.shape (c :: cs)).1 (readToken p.shape (c :: cs)).2 := by
  have hne : ∀ e, digit? e = none → c ≠ e := by
    rintro e he rfl
    rw [hd] at he
    cases he
  have htake : takeToken? p text m ('$' :: c :: cs) =
      takeNumber? p text m d (cs.head?.bind digit?) := by
    rw [takeToken?_of_ne (hne '$' rfl) (hne '&' rfl) (hne (Char.ofNat 0x60) rfl) (hne '\'' rfl), hd]
  rw [readToken_of_digit hd]
  cases hn : readNumber p.shape d cs with
  | none =>
    refine ⟨[], rfl, ?_⟩
    rw [htake, takeNumber?_of_none hn]
    rfl
  | some found =>
    obtain ⟨n, rest⟩ := found
    obtain ⟨digits, hcs, hnumber⟩ := takeNumber?_of_some hn text m
    refine ⟨c :: digits, congrArg (c :: ·) hcs, ?_⟩
    have hcount : byteCount ('$' :: c :: digits) = 2 + byteCount digits := by
      have hdollar : '$'.utf8Size = 1 := rfl
      rw [byteCount, byteCount, hdollar, utf8Size_of_digit? hd]
      omega
    rw [htake, hnumber, hcount]
    rfl

theorem takes_name (hnamed : p.shape.named = true) {name : List Char} (hname : '>' ∉ name)
    (rest : List Char) :
    Takes p text m ('<' :: (name ++ '>' :: rest)) (.named name) rest := by
  have hfront : '>' ∉ '$' :: '<' :: name := by simp [hname]
  -- the dollar and the bracket take a byte each, so the name begins at offset 2
  have hclose : offset? '>' ('$' :: '<' :: (name ++ '>' :: rest)) =
      some (byteCount ('$' :: '<' :: name)) := Text.offset?_append hfront rest
  have hslice : slice? 2 (byteCount ('$' :: '<' :: name)) ('$' :: '<' :: (name ++ '>' :: rest)) =
      some name := Text.slice?_append ['$', '<'] name ('>' :: rest)
  refine ⟨'<' :: (name ++ ['>']), by simp, ?_⟩
  rw [takeToken?_of_ne (by decide) (by decide) (by decide) (by decide)]
  have hdigit : digit? '<' = none := rfl
  rw [hdigit]
  dsimp only
  rw [if_pos ⟨rfl, hnamed⟩, hclose]
  dsimp only
  rw [hslice]
  have hcount : byteCount ('$' :: '<' :: (name ++ ['>'])) = byteCount ('$' :: '<' :: name) + 1 :=
    byteCount_append ('$' :: '<' :: name) ['>']
  rw [hcount]
  rfl

theorem takes_bracket {cs : List Char} (h : ¬ (p.shape.named = true ∧ '>' ∈ cs)) :
    Takes p text m ('<' :: cs) (.char '$') ('<' :: cs) := by
  refine ⟨[], rfl, ?_⟩
  rw [takeToken?_of_ne (by decide) (by decide) (by decide) (by decide)]
  have hdigit : digit? '<' = none := rfl
  rw [hdigit]
  dsimp only
  by_cases hnamed : p.shape.named = true
  · have hopen : '>' ∉ '$' :: '<' :: cs := by
      simp only [hnamed, true_and] at h
      simp [h]
    rw [if_pos ⟨rfl, hnamed⟩, Text.offset?_of_not_mem hopen]
    rfl
  · rw [if_neg fun hn => hnamed hn.2]
    rfl

/-- A character that begins no token leaves the dollar before it alone. -/
theorem takes_other {c : Char} (hd : digit? c = none) (hbracket : c ≠ '<') (hdollar : c ≠ '$')
    (hwhole : c ≠ '&') (hbefore : c ≠ Char.ofNat 0x60) (hafter : c ≠ '\'') (cs : List Char) :
    Takes p text m (c :: cs) (.char '$') (c :: cs) := by
  refine ⟨[], rfl, ?_⟩
  rw [takeToken?_of_ne hdollar hwhole hbefore hafter, hd]
  dsimp only
  rw [if_neg fun h => hbracket h.1]
  rfl

/-- A token is taken by its bytes as it is read. -/
theorem takes_readToken (h : m.LiesFrom text.toArray 0) (cs : List Char) :
    Takes p text m cs (readToken p.shape cs).1 (readToken p.shape cs).2 := by
  cases cs with
  | nil => exact takes_nil
  | cons c cs =>
    cases hd : digit? c with
    | some d => exact takes_digit hd cs
    | none =>
      by_cases hbracket : c = '<'
      · subst hbracket
        by_cases hname : p.shape.named = true ∧ '>' ∈ cs
        · obtain ⟨hnamed, hclose⟩ := hname
          obtain ⟨name, rest, rfl, hfirst⟩ := List.eq_append_cons_of_mem hclose
          rw [readToken_name hnamed hfirst]
          exact takes_name hnamed hfirst rest
        · rw [readToken, if_neg hname]
          exact takes_bracket hname
      · by_cases hdollar : c = '$'
        · rw [hdollar, readToken]
          exact takes_dollar cs
        by_cases hwhole : c = '&'
        · rw [hwhole, readToken]
          exact takes_whole h cs
        by_cases hafter : c = '\''
        · rw [hafter, readToken]
          exact takes_after h cs
        rw [readToken_of_ne p.shape hd hbracket hdollar hwhole hafter]
        by_cases hbefore : c = Char.ofNat 0x60
        · rw [if_pos hbefore, hbefore]
          exact takes_before h cs
        · rw [if_neg hbefore]
          exact takes_other hd hbracket hdollar hwhole hbefore hafter cs

/-! ## Whole templates -/

/-- Behind a token there are no more dollars than behind its first one. -/
theorem Takes.count_le {cs rest : List Char} {item : Item} (h : Takes p text m cs item rest) :
    rest.count '$' ≤ cs.count '$' := by
  obtain ⟨used, rfl, -⟩ := h
  rw [List.count_append]
  exact Nat.le_add_left _ _

/-- Up to the token after its first dollar a template stands for itself, and then goes on. -/
theorem expandWithin?_step {cs rest front : List Char} {item : Item}
    (h : Takes p text m cs item rest) (hfront : '$' ∉ front) (limit : Nat) :
    expandWithin? p text m (limit + 1) (front ++ '$' :: cs) =
      (expandWithin? p text m limit rest).map
        fun back => front ++ item.value (p.matched text m) ++ back := by
  obtain ⟨used, rfl, htake⟩ := h
  have hrest : slice? (byteCount ('$' :: used)) (byteCount ('$' :: (used ++ rest)))
      ('$' :: (used ++ rest)) = some rest := Text.slice?_back ('$' :: used) rest
  rw [expandWithin?, Text.offset?_append hfront]
  simp only [Text.slice?_front, Text.slice?_back, htake, hrest, Option.bind_eq_bind,
    Option.bind_some]
  cases expandWithin? p text m limit rest <;> rfl

/-- A template without dollars stands for itself. -/
theorem expandWithin?_of_not_mem {template : List Char} (h : '$' ∉ template) (limit : Nat) :
    expandWithin? p text m limit template =
      some (expand p.shape (p.matched text m) template) := by
  have hnil : expand p.shape (p.matched text m) [] = [] := by
    rw [expand, items, List.flatMap_nil]
  have hexpand : expand p.shape (p.matched text m) (template ++ []) =
      template ++ expand p.shape (p.matched text m) [] := expand_text_append h _
  rw [hnil, List.append_nil] at hexpand
  rw [expandWithin?, Text.offset?_of_not_mem h, hexpand]

/-- The expansion of a template is found in as many steps as it has dollars. -/
theorem expandWithin?_eq (h : m.LiesFrom text.toArray 0) {limit : Nat} {template : List Char}
    (hlimit : template.count '$' ≤ limit) :
    expandWithin? p text m limit template =
      some (expand p.shape (p.matched text m) template) := by
  -- each step takes a dollar of the template, and one of the limit
  induction limit generalizing template with
  | zero => exact expandWithin?_of_not_mem (List.count_eq_zero.mp (Nat.le_zero.mp hlimit)) 0
  | succ limit ih =>
    by_cases hdollar : '$' ∈ template
    · obtain ⟨front, cs, rfl, hfront⟩ := List.eq_append_cons_of_mem hdollar
      have htakes := takes_readToken (p := p) h cs
      have hcount := htakes.count_le
      rw [List.count_append, List.count_cons_self] at hlimit
      rw [expandWithin?_step htakes hfront, ih (by omega), expand_text_append hfront, expand,
        expand, items_dollar, List.flatMap_cons, Option.map_some, List.append_assoc]
    · exact expandWithin?_of_not_mem hdollar (limit + 1)

end

/-! ## Numbers of groups -/

theorem hasGroup_of_readNumber {p : Pattern} {d n : Nat} {cs rest : List Char}
    (h : readNumber p.shape d cs = some (n, rest)) : HasGroup p n := by
  rw [readNumber_eq_or] at h
  rcases Option.or_eq_some_iff.mp h with h | ⟨-, h⟩
  · obtain ⟨k, hk, hpair⟩ := Option.map_eq_some_iff.mp h
    obtain ⟨e, -, hnumber⟩ := Option.bind_eq_some_iff.mp hk
    cases hpair
    exact hasGroup_of_groupNumber? hnumber
  · obtain ⟨k, hnumber, hpair⟩ := Option.map_eq_some_iff.mp h
    cases hpair
    exact hasGroup_of_groupNumber? hnumber

/-- A token asks only for groups that there are. -/
theorem hasGroup_of_readToken {p : Pattern} {cs : List Char} {n : Nat}
    (h : (readToken p.shape cs).1 = .group n) : HasGroup p n := by
  unfold readToken at h
  split at h
  next => cases h
  next => cases h
  next => cases h
  next => cases h
  next => split at h <;> cases h
  -- only a number gives a group
  next c cs _ _ _ _ =>
    split at h
    next => cases h
    next =>
      split at h
      next k rest hread =>
        cases h
        obtain ⟨d, -, hnumber⟩ := Option.bind_eq_some_iff.mp hread
        exact hasGroup_of_readNumber hnumber
      next => cases h

/-- A template asks only for groups that there are. -/
theorem hasGroup_of_mem_items {p : Pattern} {template : List Char} {n : Nat}
    (h : .group n ∈ items p.shape template) : HasGroup p n := by
  generalize hshape : p.shape = shape at h
  fun_induction items shape template with
  | case1 => cases h
  | case2 cs t ih =>
    rcases List.mem_cons.mp h with htoken | hrest
    · subst hshape
      exact hasGroup_of_readToken htoken.symm
    · exact ih hrest
  | case3 c cs _ ih =>
    rcases List.mem_cons.mp h with hchar | hrest
    · cases hchar
    · exact ih hrest

/-- For every match of a pattern, a token takes the dollar at least and ends where a character ends,
no part is asked for that is not there, and a template is expanded in as many steps as it has
dollars. -/
theorem expandWithin?_count {p : Pattern} {text : List Char} {m : Regex.Match}
    (hm : m ∈ p.regex.automaton.allMatches text.toArray) :
    (∀ cs, ∃ used, '$' :: cs = used ++ (readToken p.shape cs).2 ∧
        takeToken? p text m ('$' :: cs) =
          some ((readToken p.shape cs).1.value (p.matched text m), (bytes used).length) ∧
        1 ≤ (bytes used).length ∧ (bytes used).length ≤ (bytes ('$' :: cs)).length) ∧
      (∀ template, expandWithin? p text m (template.count '$') template =
        some (expand p.shape (p.matched text m) template)) ∧
      ∀ template n, .group n ∈ items p.shape template → HasGroup p n := by
  have hlies := (p.regex.automaton.inOrder_allMatches text.toArray).liesFrom hm
  refine ⟨fun cs => ?_, fun template => expandWithin?_eq hlies le_rfl,
    fun template n => hasGroup_of_mem_items⟩
  obtain ⟨used, hcs, htake⟩ := takes_readToken (p := p) hlies cs
  -- what a token takes is at least its dollar, and at most what is there
  have hsplit : '$' :: cs = '$' :: used ++ (readToken p.shape cs).2 := congrArg ('$' :: ·) hcs
  refine ⟨'$' :: used, hsplit, ?_, ?_, ?_⟩
  · rw [Text.length_bytes]
    exact htake
  · rw [Text.length_bytes]
    exact Nat.le_add_right 1 (byteCount used)
  · rw [Text.length_bytes, Text.length_bytes, hsplit, byteCount_append]
    exact Nat.le_add_right _ _

/-- Of five dollars two begin tokens, and the others stand for themselves. -/
theorem expandWithin?_count_name :
    ∃ p m, Pattern.compile "(?<_>b)".toList [] = .ok p ∧
      m ∈ p.regex.automaton.allMatches "äbö".toList.toArray ∧
      expandWithin? p "äbö".toList m 5 "é$'$ü$<_>$9$<é".toList = some "éö$üb$9$<é".toList := by
  let m : Regex.Match := ⟨1, 2, [(3, 2), (2, 1)]⟩
  obtain ⟨p, hp, hfound, hexpand⟩ : ∃ p, Pattern.compile "(?<_>b)".toList [] = .ok p ∧
      p.regex.automaton.allMatches "äbö".toList.toArray = [m] ∧
      expand p.shape (p.matched "äbö".toList m) "é$'$ü$<_>$9$<é".toList = "éö$üb$9$<é".toList :=
    ⟨_, rfl, by cbv, by cbv⟩
  have hm : m ∈ p.regex.automaton.allMatches "äbö".toList.toArray := by
    rw [hfound]
    exact List.mem_singleton_self m
  refine ⟨p, m, hp, hm, ?_⟩
  rw [← hexpand]
  exact (expandWithin?_count hm).2.1 "é$'$ü$<_>$9$<é".toList

end Template
end Remap
