import Remap.Regex.Parser.Bracket
import Remap.Proofs.Regex.Enclosed.Escape
import Remap.Proofs.Regex.GroupName
/-!
# Classes in an expression in parentheses

A class in brackets is read in parentheses as it is read alone, for it is closed before the
parenthesis comes.

Main statement: `follows_readClass`.
-/

namespace Remap.Regex

open Cursor (Enclosed)

/-! ## Without spans -/

theorem Literal.char_eq_of_bare_eq {k l : Literal} (h : k.bare = l.bare) : k.char = l.char :=
  (Literal.mk.inj h).2.1

/-- The parts without their spans. -/
def Parts.bare (p : Parts) : Parts := { span := {}, items := p.items.map ClassSet.bare }

/-- What the reader comes back to, without its spans. -/
def ClassFrame.bare : ClassFrame → ClassFrame
  | opened outer _ negated => .opened outer.bare {} negated
  | operator op left => .operator op left.bare

theorem Parts.bare_push {p q : Parts} {a b : ClassSet} (h : q.bare = p.bare)
    (hab : b.bare = a.bare) : (q.push b).bare = (p.push a).bare := by
  have hitems : q.items.map ClassSet.bare = p.items.map ClassSet.bare := congrArg Parts.items h
  simp only [Parts.bare, Parts.push, List.map_cons, hitems, hab]

theorem Parts.bare_toSet (p : Parts) : p.toSet.bare = p.bare.toSet := by
  obtain ⟨span, items⟩ := p
  match items with
  | [] => rfl
  | [_] => rfl
  | a :: b :: items =>
    show ClassSet.union {} (ClassSet.allBare (a :: b :: items).reverse) =
      .union {} ((a :: b :: items).map ClassSet.bare).reverse
    rw [ClassSet.allBare_eq_map, List.map_reverse]

/-- The part that an operator finishes depends on spans in its own only. -/
theorem bare_closeOperator {right right' : ClassSet} {stack stack' : List ClassFrame}
    (hright : right'.bare = right.bare)
    (hstack : stack'.map ClassFrame.bare = stack.map ClassFrame.bare) :
    (closeOperator right' stack').1.bare = (closeOperator right stack).1.bare ∧
      (closeOperator right' stack').2.map ClassFrame.bare =
        (closeOperator right stack).2.map ClassFrame.bare := by
  match stack, stack' with
  | [], [] => exact ⟨hright, rfl⟩
  | [], _ :: _ | _ :: _, [] => cases hstack
  | .opened _ _ _ :: _, .opened _ _ _ :: _ => exact ⟨hright, hstack⟩
  | .opened _ _ _ :: _, .operator _ _ :: _ | .operator _ _ :: _, .opened _ _ _ :: _ =>
    cases (List.cons.inj hstack).1
  | .operator op left :: rest, .operator op' left' :: rest' =>
    obtain ⟨hframe, hrest⟩ := List.cons.inj hstack
    obtain ⟨hop, hleft⟩ := ClassFrame.operator.inj hframe
    exact ⟨by simp only [closeOperator, ClassSet.bare, hop, hleft, hright], hrest⟩

/-! ## Readers -/

variable {n : Nat} {c d : Cursor}

theorem follows_unclosedClass {α β : Type} {R : α → β → Prop} (fallback : Span)
    (stack : List ClassFrame) (y : Reading β) : Follows R (unclosedClass fallback stack) y := by
  cases h : unclosedClass (α := α) fallback stack with
  | error e => exact .error
  | ok x => exact absurd h (unclosedClass_ne_ok fallback stack x)

theorem readLeadingHyphens_of_ne (start : Position) (k : Nat) (p : Parts)
    (hc : ¬ c.peek = some '-') : readLeadingHyphens start k p c = .ok (p, c) := by
  cases k with
  | zero => rfl
  | succ k => rw [readLeadingHyphens, if_neg hc]

theorem follows_readLeadingHyphens {j k : Nat} {p q : Parts} (h : c.Enclosed n d)
    (start start' : Position) (hpq : q.bare = p.bare) (hj : c.rest.length ≤ j)
    (hk : d.rest.length ≤ k) :
    Follows (Alike Parts.bare n) (readLeadingHyphens start j p c)
      (readLeadingHyphens start' k q d) := by
  have hpeek := h.peek_eq_some_iff (x := '-') (by decide)
  induction j generalizing n c d p q k with
  | zero =>
    have hc : ¬ c.peek = some '-' := by
      intro he
      rw [Cursor.peek, List.length_eq_zero_iff.mp (Nat.le_zero.mp hj)] at he
      cases he
    rw [readLeadingHyphens_of_ne start' k q (mt hpeek.mp hc)]
    exact .ok ⟨hpq, h⟩
  | succ j ih =>
    by_cases hc : c.peek = some '-'
    · have hd := hpeek.mpr hc
      cases k with
      | zero =>
        rw [Cursor.peek, List.length_eq_zero_iff.mp (Nat.le_zero.mp hk)] at hd
        cases hd
      | succ k =>
        -- either reader takes one character, so what fuel is left to each is enough for its rest
        have hj' : c.next.rest.length ≤ j := by
          have := Cursor.length_next_le c
          omega
        have hk' : d.next.rest.length ≤ k := by
          have := Cursor.length_next_le d
          omega
        have hnext := h.next.mono (Nat.sub_le n 1)
        rw [readLeadingHyphens, if_pos hc, readLeadingHyphens, if_pos hd]
        dsimp only
        by_cases hend : c.next.atEnd = true
        · rw [if_pos hend]
          exact .fault
        · rw [if_neg hend, if_neg (hnext.atEnd_eq_false hend)]
          exact ih hnext (Parts.bare_push hpq rfl) hj' hk'
            (hnext.peek_eq_some_iff (by decide))
    · rw [readLeadingHyphens_of_ne start (j + 1) p hc,
        readLeadingHyphens_of_ne start' k q (mt hpeek.mp hc)]
      exact .ok ⟨hpq, h⟩

/-- The opening of a class is read alike: the frame and the first parts. -/
theorem follows_readClassOpening (h : c.Enclosed n d) {outer outer' : Parts}
    (houter : outer'.bare = outer.bare) :
    Follows (Alike (Prod.map ClassFrame.bare Parts.bare) (n - 1)) (readClassOpening outer c)
      (readClassOpening outer' d) := by
  have hnext := h.next
  unfold readClassOpening
  dsimp only
  by_cases hend : c.next.atEnd = true
  · rw [if_pos hend]
    exact .fault
  rw [if_neg hend, if_neg (hnext.atEnd_eq_false hend)]
  have hnegated := hnext.peek_eq_some_iff (x := '^') (by decide)
  simp only [hnegated]
  have hbody : (if c.next.peek = some '^' then c.next.next else c.next).Enclosed (n - 1)
      (if c.next.peek = some '^' then d.next.next else d.next) := by
    split
    · exact hnext.next.mono (Nat.sub_le (n - 1) 1)
    · exact hnext
  -- from here on only the relation of the two cursors is needed, not whether a hat was read
  generalize (if c.next.peek = some '^' then c.next.next else c.next) = e at hbody ⊢
  generalize (if c.next.peek = some '^' then d.next.next else d.next) = e' at hbody ⊢
  by_cases hend' : e.atEnd = true
  · rw [if_pos hend']
    exact .fault
  rw [if_neg hend', if_neg (hbody.atEnd_eq_false hend')]
  have hnone : Parts.bare { span := e'.here } = Parts.bare { span := e.here } := rfl
  apply (follows_readLeadingHyphens hbody _ _ hnone (Nat.le_refl _) (Nat.le_refl _)).bind
  rintro ⟨parts, f⟩ ⟨parts', f'⟩ ⟨hparts, hf⟩
  have hparts : parts'.bare = parts.bare := hparts
  have hempty : parts'.items.isEmpty = parts.items.isEmpty := by
    have hitems := congrArg (fun p : Parts => p.items.isEmpty) hparts
    simpa [Parts.bare] using hitems
  have hclose := hf.peek_eq_some_iff (x := ']') (by decide)
  apply Follows.ite_of_iff
  · rw [hempty, hclose]
  · intro _
    have hg := hf.next.mono (Nat.sub_le (n - 1) 1)
    by_cases hend'' : f.next.atEnd = true
    · rw [if_pos hend'']
      exact .fault
    · rw [if_neg hend'', if_neg (hg.atEnd_eq_false hend'')]
      refine .ok ⟨Prod.ext ?_ (Parts.bare_push hparts rfl), hg⟩
      simp only [Prod.map_apply, ClassFrame.bare, houter]
  · intro _
    refine .ok ⟨Prod.ext ?_ hparts, hf⟩
    simp only [Prod.map_apply, ClassFrame.bare, houter]

/-- A class such as `[:alpha:]` is there in parentheses if it is there alone. -/
theorem rel_readNamedClass? (h : c.Enclosed n d) :
    Option.Rel (Alike ClassSet.bare n) (readNamedClass? c) (readNamedClass? d) := by
  unfold readNamedClass?
  dsimp only
  rw [h.startsWith_eq (by decide)]
  by_cases hstart : c.startsWith ['[', ':'] = true
  · rw [if_pos hstart, if_pos hstart]
    have hinner := h.advanceBy 2
    have hnegated := hinner.peek_eq_some_iff (x := '^') (by decide)
    simp only [hnegated]
    have hbody : (if (c.advanceBy 2).peek = some '^' then (c.advanceBy 2).advance
          else c.advanceBy 2).Enclosed n
        (if (c.advanceBy 2).peek = some '^' then (d.advanceBy 2).advance
          else d.advanceBy 2) := by
      split
      · exact hinner.advance.mono (Nat.sub_le n 1)
      · exact hinner
    generalize (if (c.advanceBy 2).peek = some '^' then (c.advanceBy 2).advance
      else c.advanceBy 2) = e at hbody ⊢
    generalize (if (c.advanceBy 2).peek = some '^' then (d.advanceBy 2).advance
      else d.advanceBy 2) = e' at hbody ⊢
    -- the name ends at a colon in both texts, or reaches up to the end in both
    rcases hbody.takeWhile_rest (· != ':') with hname | ⟨-, hwhole, hwhole'⟩
    · rw [hname]
      have hend := hbody.advanceBy (e.rest.takeWhile (· != ':')).length
      rw [hend.startsWith_eq (by decide)]
      split
      · cases NamedClass.ofName? (String.ofList (e.rest.takeWhile (· != ':'))) with
        | none => exact .none
        | some kind => exact .some ⟨rfl, hend.advanceBy 2⟩
      · exact .none
    · -- without a colon nothing is left that could close the class
      have hnone : ∀ f : Cursor,
          (f.advanceBy f.rest.length).startsWith [':', ']'] = false := by
        intro f
        rw [Cursor.startsWith, Cursor.rest_advanceBy, List.drop_length]
        rfl
      rw [hwhole, hwhole', hnone, hnone]
      exact .none
  · rw [if_neg hstart, if_neg hstart]
    exact .none

theorem follows_readClassItem (h : c.Enclosed n d) (x : Char) :
    Follows (Alike Item.bare n) (readClassItem x c) (readClassItem x d) := by
  apply Follows.ite
  · exact fun _ => (follows_readEscape h).imp (Alike.mono (Nat.sub_le n 1))
  · exact fun _ => .ok ⟨rfl, h.advance.mono (Nat.sub_le n 1)⟩

/-- Which items can be in a class does not depend on spans. -/
theorem follows_toClassSet {i j : Item} (h : j.bare = i.bare) :
    Follows (fun a b => b.bare = a.bare) i.toClassSet j.toClassSet := by
  cases i with
  | assertion => exact .fault
  | dot => exact .fault
  | literal l =>
    cases j with
    | literal k => exact .ok (congrArg ClassSet.literal (Item.literal.inj h))
    | _ => cases h
  | shorthand s negated k =>
    cases j with
    | shorthand =>
      cases h
      exact .ok rfl
    | _ => cases h
  | property s negated q =>
    cases j with
    | property =>
      cases h
      exact .ok rfl
    | _ => cases h

theorem follows_toLiteral {i j : Item} (h : j.bare = i.bare) :
    Follows (fun a b => b.bare = a.bare) i.toLiteral j.toLiteral := by
  cases i with
  | literal l =>
    cases j with
    | literal k => exact .ok (Item.literal.inj h)
    | _ => cases h
  | _ => exact .fault

/-- A part of a class, or a range, is read alike. -/
theorem follows_readClassRange (h : c.Enclosed n d) (stack stack' : List ClassFrame) (x : Char) :
    Follows (Alike ClassSet.bare n) (readClassRange stack x c) (readClassRange stack' x d) := by
  apply (follows_readClassItem h x).bind
  rintro ⟨first, e⟩ ⟨first', e'⟩ ⟨hfirst, he⟩
  have hskip := he.skip
  dsimp only
  by_cases hend : e.skip.atEnd = true
  · rw [if_pos hend]
    exact follows_unclosedClass _ _ _
  rw [if_neg hend, if_neg (hskip.atEnd_eq_false hend)]
  apply Follows.ite_of_iff
  -- none of the signs that tell a range is the closing parenthesis, which only one text has
  · rw [ne_eq, ne_eq, hskip.peek_eq_some_iff (by decide),
      hskip.peekNext_eq_some_iff (x := ']') (by decide) rfl (by decide),
      hskip.peekNext_eq_some_iff (x := '-') (by decide) rfl (by decide)]
  · intro _
    exact (follows_toClassSet hfirst).bind fun a b hab => .ok ⟨hab, hskip⟩
  · intro _
    have hnext := hskip.next.mono (Nat.sub_le n 1)
    cases hp : e.skip.next.peek with
    | none => exact follows_unclosedClass _ _ _
    | some y =>
      rw [hnext.peek_of_some hp]
      apply (follows_readClassItem hnext y).bind
      rintro ⟨last, f⟩ ⟨last', f'⟩ ⟨hlast, hf⟩
      apply (follows_toLiteral hfirst).bind
      intro a a' ha
      apply (follows_toLiteral hlast).bind
      intro b b' hb
      apply Follows.ite_of_iff
      · rw [Literal.char_eq_of_bare_eq ha, Literal.char_eq_of_bare_eq hb]
      · intro _
        refine .ok ⟨?_, hf⟩
        simp only [ClassSet.bare, ha, hb]
      · exact fun _ => .fault

theorem operatorAt?_eq (h : c.Enclosed n d) : operatorAt? d = operatorAt? c := by
  unfold operatorAt?
  rw [h.startsWith_eq (by decide), h.startsWith_eq (by decide), h.startsWith_eq (by decide)]

theorem eq_opened_cons_of_map {outer : Parts} {opening : Span} {negated : Bool}
    {rest stack : List ClassFrame}
    (h : stack.map ClassFrame.bare = (.opened outer opening negated :: rest).map ClassFrame.bare) :
    ∃ outer' opening' rest', stack = .opened outer' opening' negated :: rest' ∧
      outer'.bare = outer.bare ∧ rest'.map ClassFrame.bare = rest.map ClassFrame.bare := by
  obtain ⟨frame, rest', rfl, hframe, hrest⟩ := List.map_eq_cons_iff.mp h
  cases frame with
  | opened outer' opening' negated' =>
    obtain ⟨houter, -, hnegated⟩ := ClassFrame.opened.inj hframe
    exact ⟨outer', opening', rest', by rw [hnegated], houter, hrest⟩
  | operator => cases hframe

/-- What is left of a class is read alike, with any more rounds. -/
theorem follows_readClassRest {j k : Nat} {stack stack' : List ClassFrame} {parts parts' : Parts}
    (hjk : j ≤ k) (h : c.Enclosed n d)
    (hstack : stack'.map ClassFrame.bare = stack.map ClassFrame.bare)
    (hparts : parts'.bare = parts.bare) :
    Follows (Alike Ast.bare n) (readClassRest j stack parts c)
      (readClassRest k stack' parts' d) := by
  induction j generalizing k c d stack stack' parts parts' with
  | zero => exact follows_unclosedClass _ _ _
  | succ j ih =>
    obtain ⟨k, rfl⟩ : ∃ i, k = i + 1 := ⟨k - 1, by omega⟩
    have hjk := Nat.le_of_succ_le_succ hjk
    have hskip := h.skip
    -- what a closing bracket or an operator would finish here
    have hclosed : parts'.toSet.bare = parts.toSet.bare := by
      rw [Parts.bare_toSet, Parts.bare_toSet, hparts]
    obtain ⟨hset, hrest⟩ := bare_closeOperator hclosed hstack
    rw [readClassRest, readClassRest]
    cases hp : c.skip.peek with
    | none => exact follows_unclosedClass _ _ _
    | some x =>
      rw [hskip.peek_of_some hp]
      split
      next heq => cases heq
      next =>
        -- an opening bracket: a class with a name, or a class within the class
        have hnamed := rel_readNamedClass? hskip
        generalize readNamedClass? c.skip = named, readNamedClass? d.skip = named' at hnamed ⊢
        cases hnamed with
        | none =>
          apply (follows_readClassOpening hskip hparts).bind
          rintro ⟨⟨frame, inner⟩, e⟩ ⟨⟨frame', inner'⟩, e'⟩ ⟨hopened, he⟩
          obtain ⟨hframe, hinner⟩ := Prod.mk.inj hopened
          have hframes : (frame' :: stack').map ClassFrame.bare =
              (frame :: stack).map ClassFrame.bare := congrArg₂ List.cons hframe hstack
          exact ih hjk (he.mono (Nat.sub_le n 1)) hframes hinner
        | some hab => exact ih hjk hab.2 hstack (Parts.bare_push hparts hab.1)
      next =>
        -- a closing bracket: the class it closes is a part of the one around it, or the whole
        dsimp only
        generalize closeOperator parts.toSet stack = closed at hset hrest ⊢
        generalize closeOperator parts'.toSet stack' = closed' at hset hrest ⊢
        obtain ⟨set, rest⟩ := closed
        obtain ⟨set', rest'⟩ := closed'
        cases rest with
        | nil => exact follows_unclosedClass _ _ _
        | cons frame rest =>
          cases frame with
          | operator => exact follows_unclosedClass _ _ _
          | opened outer opening negated =>
            obtain ⟨outer', opening', rest', rfl, houter, hrest⟩ := eq_opened_cons_of_map hrest
            have hset : set'.bare = set.bare := hset
            have hadvance := hskip.advance.mono (Nat.sub_le n 1)
            apply Follows.ite_of_iff
            · rw [List.isEmpty_iff, List.isEmpty_iff, ← List.map_eq_nil_iff, hrest,
                List.map_eq_nil_iff]
            · intro _
              refine .ok ⟨?_, hadvance⟩
              simp only [Ast.bare, hset]
            · intro _
              refine ih hjk hadvance hrest (Parts.bare_push houter ?_)
              simp only [ClassSet.bare, hset]
      next y _ _ heq =>
        obtain rfl := Option.some.inj heq
        rw [operatorAt?_eq hskip]
        cases operatorAt? c.skip with
        | some op =>
          exact ih hjk (hskip.advanceBy 2)
            (congrArg₂ List.cons (congrArg (ClassFrame.operator op) hset) hrest) rfl
        | none =>
          apply (follows_readClassRange hskip stack stack' x).bind
          rintro ⟨set, e⟩ ⟨set', e'⟩ ⟨hset, he⟩
          exact ih hjk he hstack (Parts.bare_push hparts hset)

/-- A class in brackets is read alike. -/
theorem follows_readClass (h : c.Enclosed n d) :
    Follows (Alike Ast.bare (n - 1)) (readClass c) (readClass d) := by
  have hnone : Parts.bare { span := d.here } = Parts.bare { span := c.here } := rfl
  unfold readClass
  apply (follows_readClassOpening h hnone).bind
  rintro ⟨⟨frame, inner⟩, e⟩ ⟨⟨frame', inner'⟩, e'⟩ ⟨hopened, he⟩
  obtain ⟨hframe, hinner⟩ := Prod.mk.inj hopened
  exact follows_readClassRest (Nat.succ_le_succ he.length_rest_le) he
    (congrArg₂ List.cons hframe rfl) hinner

end Remap.Regex
