import Mathlib
import Remap.Proofs.Pattern.Flags
import Remap.Proofs.Regex.GroupName
/-!
# Writing templates

A template can be written for a row of parts: texts, with their dollars doubled, and what a match
gives, by its sign, by the number of a group in two digits, or by the name of a group. Whatever
follows a part, it is read as what it was written for, so that the template stands for what its
parts stand for.

Main statements: `items_toText_append` and `expand_render`.
-/

namespace Remap

/-! ## Templates without tokens -/

/-- A dollar is doubled, so that a template has it for itself. -/
def doubleDollar (c : Char) : List Char := if c = '$' then ['$', '$'] else [c]

/-- The template that stands for a text. -/
def doubleDollars (text : List Char) : List Char := text.flatMap doubleDollar

namespace Template

theorem items_cons {c : Char} (h : c ≠ '$') (shape : Shape) (cs : List Char) :
    items shape (c :: cs) = .char c :: items shape cs := by rw [items, if_neg h]

theorem items_dollar (shape : Shape) (cs : List Char) :
    items shape ('$' :: cs) = (readToken shape cs).1 :: items shape (readToken shape cs).2 := by
  rw [items, if_pos rfl]

/-- Characters are read from a text with its dollars doubled, whatever follows. -/
theorem items_doubleDollars_append (shape : Shape) (text rest : List Char) :
    items shape (doubleDollars text ++ rest) = text.map .char ++ items shape rest := by
  induction text with
  | nil => rfl
  | cons c text ih =>
    rw [doubleDollars, List.flatMap_cons, doubleDollar, List.append_assoc, List.map_cons,
      List.cons_append, ← ih]
    split
    next h =>
      subst h
      exact items_dollar shape ('$' :: (doubleDollars text ++ rest))
    next h => exact items_cons h shape (doubleDollars text ++ rest)

theorem items_doubleDollars (shape : Shape) (text : List Char) :
    items shape (doubleDollars text) = text.map .char := by
  have h := items_doubleDollars_append shape text []
  rw [List.append_nil] at h
  rw [h, items, List.append_nil]

/-- With its dollars doubled, a text stands for itself in every match. -/
theorem expand_doubleDollars (shape : Shape) (m : Matched) (text : List Char) :
    expand shape m (doubleDollars text) = text := by
  rw [expand, items_doubleDollars, List.flatMap_map]
  exact List.flatMap_singleton' text

/-! ## Parts -/

/-- A part of a template. -/
inductive Part
  | text (t : List Char)
  | whole
  | before
  | after
  | group (n : Nat)
  | named (name : List Char)
  deriving DecidableEq, Repr

namespace Part

/-- The part as it is written. A group by number has two digits. -/
def toText : Part → List Char
  | text t => doubleDollars t
  | whole => ['$', '&']
  | before => ['$', Char.ofNat 0x60]
  | after => ['$', '\'']
  | group n => ['$', Nat.digitChar (n / 10), Nat.digitChar (n % 10)]
  | named name => '$' :: '<' :: (name ++ ['>'])

/-- The items that a part is read as. -/
def items : Part → List Item
  | text t => t.map .char
  | whole => [.whole]
  | before => [.before]
  | after => [.after]
  | group n => [.group n]
  | named name => [.named name]

/-- The part can be read where a pattern has some shape: a group by number is one of its groups and
has two digits at most, and a name ends before the first `>`. -/
def Readable (shape : Shape) : Part → Prop
  | group n => 1 ≤ n ∧ n ≤ shape.groups ∧ n ≤ 99
  | named name => shape.named = true ∧ '>' ∉ name
  | _ => True

end Part

/-! ## Reading parts -/

theorem digit?_digitChar : ∀ d < 10, digit? (Nat.digitChar d) = some d := by decide

/-- After a dollar a digit begins the number of a group. -/
theorem readToken_of_digit {c : Char} {d : Nat} (h : digit? c = some d) (shape : Shape)
    (cs : List Char) : readToken shape (c :: cs) =
      match readNumber shape d cs with
      | some (n, rest) => (.group n, rest)
      | none => (.char '$', c :: cs) := by
  unfold readToken
  split
  next heq => cases heq
  next heq =>
    cases heq
    cases h
  next heq =>
    cases heq
    cases h
  next heq =>
    cases heq
    cases h
  next heq =>
    cases heq
    cases h
  next heq =>
    cases heq
    have hgrave : c ≠ Char.ofNat 0x60 := by
      rintro rfl
      cases h
    rw [if_neg hgrave, h]
    rfl

/-- Two digits are read as one number, if the pattern has such a group. -/
theorem readNumber_two {shape : Shape} {n : Nat} (h : 1 ≤ n ∧ n ≤ shape.groups)
    (rest : List Char) :
    readNumber shape (n / 10) (Nat.digitChar (n % 10) :: rest) = some (n, rest) := by
  have hdigit := digit?_digitChar (n % 10) (Nat.mod_lt n (by decide))
  have hn : n / 10 * 10 + n % 10 = n := Nat.div_add_mod' n 10
  unfold readNumber
  simp [hdigit, hn, groupNumber?, h]

/-- Up to the first `>` a name is read. -/
theorem readToken_name {shape : Shape} (h : shape.named = true) {name : List Char}
    (hname : '>' ∉ name) (rest : List Char) :
    readToken shape ('<' :: (name ++ '>' :: rest)) = (.named name, rest) := by
  have hall : ∀ c ∈ name, (c != '>') = true := by
    intro c hc
    rw [bne_iff_ne]
    rintro rfl
    exact hname hc
  have hstop : ¬ ('>' != '>') = true := by decide
  have htake : (name ++ '>' :: rest).takeWhile (· != '>') = name := by
    rw [List.takeWhile_append_of_pos hall, List.takeWhile_cons_of_neg (p := (· != '>')) hstop,
      List.append_nil]
  have hdrop : (name ++ '>' :: rest).dropWhile (· != '>') = '>' :: rest := by
    rw [List.dropWhile_append_of_pos hall, List.dropWhile_cons_of_neg (p := (· != '>')) hstop]
  have hclose : '>' ∈ name ++ '>' :: rest := List.mem_append_right name List.mem_cons_self
  rw [readToken, if_pos ⟨h, hclose⟩, htake, hdrop]
  rfl

/-- A part is read as what it was written for, whatever follows. -/
theorem items_toText_append {shape : Shape} {part : Part} (h : part.Readable shape)
    (rest : List Char) :
    items shape (part.toText ++ rest) = part.items ++ items shape rest := by
  cases part with
  | text t => exact items_doubleDollars_append shape t rest
  | whole => exact items_dollar shape ('&' :: rest)
  | before => exact items_dollar shape (Char.ofNat 0x60 :: rest)
  | after => exact items_dollar shape ('\'' :: rest)
  -- a number is written with two digits, so that no digit behind it is taken for one
  | group n =>
    obtain ⟨h1, hgroups, h99⟩ := h
    have hdigit := digit?_digitChar (n / 10) (by omega)
    have htoken := readToken_of_digit hdigit shape (Nat.digitChar (n % 10) :: rest)
    rw [readNumber_two ⟨h1, hgroups⟩] at htoken
    show items shape ('$' :: Nat.digitChar (n / 10) :: Nat.digitChar (n % 10) :: rest) = _
    rw [items_dollar, htoken]
    rfl
  | named name =>
    have htext : (Part.named name).toText ++ rest = '$' :: '<' :: (name ++ '>' :: rest) := by
      simp [Part.toText]
    rw [htext, items_dollar, readToken_name h.1 h.2]
    rfl

end Template

/-! ## Parts of a pattern -/

open Template (Part)

/-- The text of a group of a match, which is empty if the group took no part in it. -/
def groupText (haystack : List Char) (m : Regex.Match) (n : Nat) : List Char :=
  match m.group n with
  | some (start, stop) => slice haystack start stop
  | none => []

namespace Template.Part

/-- The part asks for a group that the pattern has: by a number of two digits at most, or by a
name. -/
def IsOf (p : Pattern) : Part → Prop
  | group n => 1 ≤ n ∧ n ≤ min p.regex.groupCount 99
  | named name => ∃ n, (name, n) ∈ p.regex.names
  | _ => True

/-- What a part stands for in a match of a pattern. -/
def value (p : Pattern) (haystack : List Char) (m : Regex.Match) : Part → List Char
  | text t => t
  | whole => slice haystack m.start m.stop
  | before => haystack.take m.start
  | after => haystack.drop m.stop
  | group n => groupText haystack m n
  | named name => ((p.regex.names.lookup name).map (groupText haystack m)).getD []

/-- What a compiled pattern has can be read in its templates. -/
theorem IsOf.readable {source letters : List Char} {p : Pattern}
    (hp : Pattern.compile source letters = .ok p) {part : Part} (h : part.IsOf p) :
    part.Readable p.shape := by
  cases part with
  | group n =>
    obtain ⟨h1, hn⟩ := h
    exact ⟨h1, Nat.le_trans hn (Nat.min_le_left _ _), Nat.le_trans hn (Nat.min_le_right _ _)⟩
  | named name =>
    obtain ⟨n, hmem⟩ := h
    obtain ⟨-, -, hregex⟩ := Pattern.of_compile hp
    refine ⟨?_, Regex.delimited_of_compile hregex _ hmem⟩
    show (!p.regex.names.isEmpty) = true
    cases hnames : p.regex.names with
    | nil =>
      rw [hnames] at hmem
      cases hmem
    | cons => rfl
  | _ => trivial

theorem group_matched (p : Pattern) (haystack : List Char) (m : Regex.Match) (n : Nat) :
    (p.matched haystack m).group n = groupText haystack m n := by
  show ((m.group n).map _).getD [] = _
  unfold groupText
  cases m.group n <;> rfl

/-- A group that is asked for by its name is the one of its number. -/
theorem named_matched (p : Pattern) (haystack : List Char) (m : Regex.Match) (name : List Char) :
    (p.matched haystack m).named name =
      ((p.regex.names.lookup name).map (groupText haystack m)).getD [] := by
  show (((p.regex.names.lookup name).bind m.group).map _).getD [] = _
  cases p.regex.names.lookup name with
  | none => rfl
  | some n => exact group_matched p haystack m n

/-- The items of a part stand for its value. -/
theorem flatMap_items (p : Pattern) (haystack : List Char) (m : Regex.Match) (part : Part) :
    part.items.flatMap (Item.value (p.matched haystack m)) = part.value p haystack m := by
  cases part with
  | text t =>
    show (t.map Item.char).flatMap _ = t
    rw [List.flatMap_map]
    exact List.flatMap_singleton' t
  | group n =>
    show (p.matched haystack m).group n ++ [] = groupText haystack m n
    rw [List.append_nil, group_matched]
  | named name =>
    show (p.matched haystack m).named name ++ [] = _
    rw [List.append_nil, named_matched]
    rfl
  | _ => exact List.append_nil _

end Template.Part

namespace Template

/-- The template of a row of parts. -/
def render (parts : List Part) : List Char := parts.flatMap Part.toText

/-- A template is read as the parts that it was written for. -/
theorem items_render {shape : Shape} {parts : List Part}
    (h : ∀ part ∈ parts, part.Readable shape) :
    items shape (render parts) = parts.flatMap Part.items := by
  induction parts with
  | nil => rw [render, List.flatMap_nil, items, List.flatMap_nil]
  | cons part parts ih =>
    have hrest : items shape (render parts) = parts.flatMap Part.items :=
      ih fun q hq => h q (List.mem_cons_of_mem part hq)
    show items shape (part.toText ++ render parts) = _
    rw [items_toText_append (h part List.mem_cons_self), hrest, List.flatMap_cons]

/-- A template that was written for parts of a pattern stands, in every match, for what its parts
stand for one after the other. -/
theorem expand_render {source letters : List Char} {p : Pattern}
    (hp : Pattern.compile source letters = .ok p) (haystack : List Char) (m : Regex.Match)
    {parts : List Part} (hparts : ∀ part ∈ parts, part.IsOf p) :
    expand p.shape (p.matched haystack m) (render parts) =
      parts.flatMap (Part.value p haystack m) := by
  have hreadable : ∀ part ∈ parts, part.Readable p.shape := fun part hpart =>
    (hparts part hpart).readable hp
  rw [expand, items_render hreadable, List.flatMap_assoc]
  simp only [Part.flatMap_items]

/-- Parts that run into one another as they are written. -/
def partsRunningOn : List Part :=
  [.text ['$', '1'], .group 1, .text ['0'], .named ['_'], .group 2, .whole, .before, .after]

theorem expand_render_running_on :
    ∃ p m, Pattern.compile "(a)(?<_>b)?".toList ['g'] = .ok p ∧
      p.regex.automaton.allMatches "xac".toList.toArray = [m] ∧
      (∀ part ∈ partsRunningOn, part.IsOf p) ∧
      render partsRunningOn = "$$1$010$<_>$02$&$`$'".toList ∧
      expand p.shape (p.matched "xac".toList m) "$$1$010$<_>$02$&$`$'".toList =
        "$1a0axc".toList := by
  have hrender : render partsRunningOn = "$$1$010$<_>$02$&$`$'".toList := by cbv
  obtain ⟨p, hp, hcount, hnames, hfound⟩ :
      ∃ p, Pattern.compile "(a)(?<_>b)?".toList ['g'] = .ok p ∧ p.regex.groupCount = 2 ∧
        p.regex.names = [(['_'], 2)] ∧
        p.regex.automaton.allMatches "xac".toList.toArray =
          [{ start := 1, stop := 2, marks := [(3, 2), (2, 1)] }] :=
    ⟨_, rfl, rfl, rfl, by cbv⟩
  have hparts : ∀ part ∈ partsRunningOn, part.IsOf p := by
    simp [partsRunningOn, Part.IsOf, hcount, hnames]
  refine ⟨p, _, hp, hfound, hparts, hrender, ?_⟩
  rw [← hrender, expand_render hp _ _ hparts]
  simp only [partsRunningOn, List.flatMap_cons, Part.value, hnames]
  cbv

end Template
end Remap
