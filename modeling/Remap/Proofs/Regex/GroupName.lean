import Remap.Regex.Basic
/-!
# Names of groups

The name of a group is read up to the first `>`, so that it has none itself. The reader keeps this
of all groups that it has read, and the meaning of an expression brings in no other names.

Main statements: `Reader.Delimited.step`, `delimited_parse`, `Ast.Delimited.meaningFrom` and
`delimited_of_compile`.
-/

namespace Remap.Regex

/-- What is read in two steps is read in the first and then in the second. -/
theorem of_bind_eq_ok {α β : Type} {x : Reading α} {f : α → Reading β} {b : β}
    (h : x >>= f = .ok b) : ∃ a, x = .ok a ∧ f a = .ok b := by
  cases x with
  | error e => cases h
  | ok a => exact ⟨a, rfl, h⟩

/-! ## Expressions -/

/-- The name of the group, if it has one, can be followed by `>`. -/
def GroupKind.Delimited : GroupKind → Prop
  | .capture _ (some name) => '>' ∉ name
  | _ => True

mutual
/-- The names of all groups in the expression can be followed by `>`. -/
def Ast.Delimited : Ast → Prop
  | repetition _ _ _ _ part => part.Delimited
  | group _ kind part => kind.Delimited ∧ part.Delimited
  | alternation _ parts => Ast.AllDelimited parts
  | concat _ parts => Ast.AllDelimited parts
  | _ => True

/-- The names of all groups in some expressions can be followed by `>`. -/
def Ast.AllDelimited : List Ast → Prop
  | [] => True
  | a :: as => a.Delimited ∧ Ast.AllDelimited as
end

theorem allDelimited_iff {as : List Ast} : Ast.AllDelimited as ↔ ∀ a ∈ as, a.Delimited := by
  induction as with
  | nil => simp [Ast.AllDelimited]
  | cons a as ih => simp [Ast.AllDelimited, ih]

theorem Item.delimited_toAst (i : Item) : i.toAst.Delimited := by cases i <;> trivial

theorem Sequence.delimited_toAst {s : Sequence} (h : ∀ a ∈ s.parts, a.Delimited)
    (stop : Position) : (s.toAst stop).Delimited := by
  unfold Sequence.toAst
  split
  · trivial
  next a hparts => exact h a (by rw [hparts]; exact List.mem_singleton_self a)
  · apply allDelimited_iff.mpr
    intro a ha
    exact h a (List.mem_reverse.mp ha)

/-! ## Names as they are read -/

theorem not_mem_of_readNameRest {first : Bool} {cs name : List Char} {c d : Cursor}
    (h : readNameRest first cs c = .ok (name, d)) : '>' ∉ name := by
  induction cs generalizing first name c with
  | nil => cases h
  | cons x xs ih =>
    rw [readNameRest] at h
    split at h
    · cases h
      exact List.not_mem_nil
    -- `>` ends the name, so none of its characters is one
    next hx =>
      by_cases hok : (if first then isNameStart x else isNameChar x) = true
      · rw [if_pos hok] at h
        obtain ⟨⟨rest, e⟩, hrest, he⟩ := of_bind_eq_ok h
        cases he
        have hmem := ih hrest
        simp [hmem, Ne.symm hx]
      · rw [if_neg hok] at h
        cases h

theorem not_mem_of_readName {names : NamesRead} {c d : Cursor} {name : List Char} {span : Span}
    (h : readName names c = .ok ((name, span), d)) : '>' ∉ name := by
  obtain ⟨⟨name', e⟩, hname, hrest⟩ := of_bind_eq_ok h
  dsimp only at hrest
  split at hrest
  · cases hrest
  · split at hrest
    · cases hrest
    · cases hrest
      exact not_mem_of_readNameRest hname

/-- A group that is opened with a name can be closed behind it. -/
theorem not_mem_of_readOpening {names : NamesRead} {c d : Cursor} {name : List Char} {span : Span}
    (h : readOpening names c = .ok (.withName name span, d)) : '>' ∉ name := by
  -- of all openings only the two forms with `<` have a name
  unfold readOpening at h
  dsimp only at h
  split at h
  · cases h
  · split at h
    · obtain ⟨⟨⟨name', span'⟩, e⟩, hname, he⟩ := of_bind_eq_ok h
      cases he
      exact not_mem_of_readName hname
    · split at h
      · obtain ⟨⟨⟨name', span'⟩, e⟩, hname, he⟩ := of_bind_eq_ok h
        cases he
        exact not_mem_of_readName hname
      · split at h
        · split at h
          · cases h
          · obtain ⟨⟨ms, f⟩, -, he⟩ := of_bind_eq_ok h
            dsimp only at he
            split at he
            · split at he <;> cases he
            · cases he
        · cases h

theorem unclosedClass_ne_ok {α : Type} (fallback : Span) (stack : List ClassFrame) (x : α) :
    unclosedClass fallback stack ≠ .ok x := by
  induction stack with
  | nil => exact fun h => nomatch h
  | cons f rest ih =>
    cases f with
    | opened => exact fun h => nomatch h
    | operator => exact ih

/-- A class in brackets is read as one. -/
theorem bracketed_of_readClassRest {fuel : Nat} {stack : List ClassFrame} {parts : Parts}
    {c d : Cursor} {a : Ast} (h : readClassRest fuel stack parts c = .ok (a, d)) :
    ∃ span negated set, a = .bracketed span negated set := by
  induction fuel generalizing stack parts c with
  | zero => exact absurd h (unclosedClass_ne_ok _ _ _)
  | succ fuel ih =>
    rw [readClassRest] at h
    dsimp only at h
    split at h
    · exact absurd h (unclosedClass_ne_ok _ _ _)
    -- only a bracket that closes the outermost class ends the reading
    · split at h
      · exact ih h
      · obtain ⟨⟨⟨frame, inner⟩, e⟩, -, hrest⟩ := of_bind_eq_ok h
        exact ih hrest
    · split at h
      · split at h
        · cases h
          exact ⟨_, _, _, rfl⟩
        · exact ih h
      · exact absurd h (unclosedClass_ne_ok _ _ _)
    · split at h
      · exact ih h
      · obtain ⟨⟨set, e⟩, -, hrest⟩ := of_bind_eq_ok h
        exact ih hrest

theorem delimited_of_readClass {c d : Cursor} {a : Ast} (h : readClass c = .ok (a, d)) :
    a.Delimited := by
  obtain ⟨⟨⟨frame, parts⟩, e⟩, -, hrest⟩ := of_bind_eq_ok h
  obtain ⟨span, negated, set, rfl⟩ := bracketed_of_readClassRest hrest
  trivial

/-! ## The reader -/

/-- What is kept on the stack has such names only. -/
def GroupFrame.Delimited : GroupFrame → Prop
  | .group before _ kind _ => (∀ a ∈ before.parts, a.Delimited) ∧ kind.Delimited
  | .alternatives _ done => ∀ a ∈ done, a.Delimited

/-- All that the reader has read has such names only. -/
structure Reader.Delimited (r : Reader) : Prop where
  sequence : ∀ a ∈ r.sequence.parts, a.Delimited
  stack : ∀ f ∈ r.stack, f.Delimited

namespace Reader.Delimited

variable {r r' : Reader}

/-- One more part is added to the sequence. -/
theorem push (h : r.Delimited) {a : Ast} (ha : a.Delimited) (c : Cursor) :
    Reader.Delimited { r with cursor := c, sequence := r.sequence.push a } := by
  refine ⟨?_, h.stack⟩
  intro b hb
  rcases List.mem_cons.mp hb with rfl | hb
  · exact ha
  · exact h.sequence b hb

theorem close (h : r.Delimited) : r.close.1.Delimited ∧ ∀ f ∈ r.close.2, f.Delimited := by
  have hlast := Sequence.delimited_toAst h.sequence r.cursor.pos
  unfold Reader.close
  dsimp only
  split
  next start done rest hstack =>
    have hframes := h.stack
    rw [hstack] at hframes
    refine ⟨?_, fun f hf => hframes f (List.mem_cons_of_mem _ hf)⟩
    apply allDelimited_iff.mpr
    intro a ha
    rcases List.mem_cons.mp (List.mem_reverse.mp ha) with rfl | ha
    · exact hlast
    · exact hframes _ List.mem_cons_self a ha
  next => exact ⟨hlast, h.stack⟩

theorem bar (h : r.Delimited) : r.bar.Delimited := by
  have hlast := Sequence.delimited_toAst h.sequence r.cursor.pos
  refine ⟨fun a ha => absurd ha List.not_mem_nil, ?_⟩
  unfold Reader.bar
  dsimp only
  split
  next start done rest hstack =>
    have hframes := h.stack
    rw [hstack] at hframes
    intro f hf
    rcases List.mem_cons.mp hf with rfl | hf
    · intro a ha
      rcases List.mem_cons.mp ha with rfl | ha
      · exact hlast
      · exact hframes _ List.mem_cons_self a ha
    · exact hframes f (List.mem_cons_of_mem _ hf)
  next =>
    intro f hf
    rcases List.mem_cons.mp hf with rfl | hf
    · intro a ha
      rw [List.mem_singleton.mp ha]
      exact hlast
    · exact h.stack f hf

theorem enter (h : r.Delimited) {k : GroupKind} (hk : k.Delimited) (verbose : Bool)
    (c : Cursor) : (r.enter k verbose c).Delimited := by
  refine ⟨fun a ha => absurd ha List.not_mem_nil, ?_⟩
  intro f hf
  rcases List.mem_cons.mp hf with rfl | hf
  · exact ⟨h.sequence, hk⟩
  · exact h.stack f hf

/-- Only here a name comes in. -/
theorem opening (h : r.Delimited) (hr : r.opening = .ok r') : r'.Delimited := by
  obtain ⟨⟨o, c⟩, hopening, hrest⟩ := of_bind_eq_ok hr
  cases o with
  | directive span ms =>
    cases hrest
    exact h.push (a := .modifiers span ms) trivial _
  | plain ms =>
    cases hrest
    exact h.enter (k := .plain ms) trivial _ _
  | numbered =>
    cases hrest
    have hnext : Reader.Delimited { r with groups := r.groups + 1 } := ⟨h.sequence, h.stack⟩
    exact hnext.enter (k := .capture _ none) trivial _ _
  -- the only kind of group with a name, which was read up to `>`
  | withName name span =>
    cases hrest
    have hname : '>' ∉ name := not_mem_of_readOpening hopening
    have hnext : Reader.Delimited
        { r with groups := r.groups + 1, names := (name, span) :: r.names } :=
      ⟨h.sequence, h.stack⟩
    exact hnext.enter (k := .capture _ (some name)) hname _ _

theorem closing (h : r.Delimited) (hr : r.closing = .ok r') : r'.Delimited := by
  have hclose := h.close
  unfold Reader.closing at hr
  split at hr
  next inner before span kind verbose rest heq =>
    rw [heq] at hclose
    obtain ⟨hinner, hframes⟩ := hclose
    have hframe := hframes _ List.mem_cons_self
    cases hr
    refine ⟨?_, fun f hf => hframes f (List.mem_cons_of_mem _ hf)⟩
    intro a ha
    rcases List.mem_cons.mp ha with rfl | ha
    · exact ⟨hframe.2, hinner⟩
    · exact hframe.1 a ha
  next => cases hr

theorem repeated (h : r.Delimited) {sign : Char} (hr : r.repeated sign = .ok r') :
    r'.Delimited := by
  have hparts := h.sequence
  unfold Reader.repeated at hr
  dsimp only at hr
  split at hr
  · cases hr
  · cases hr
  · cases hr
  next part parts _ _ heq =>
    obtain ⟨⟨⟨count, greedy⟩, d⟩, -, hrest⟩ := of_bind_eq_ok hr
    cases hrest
    rw [heq] at hparts
    refine ⟨?_, h.stack⟩
    intro a ha
    rcases List.mem_cons.mp ha with rfl | ha
    · exact hparts part List.mem_cons_self
    · exact hparts a (List.mem_cons_of_mem _ ha)

/-- Reading one part keeps the names as they have to be. -/
theorem step (h : r.Delimited) {x : Char} (hr : r.step x = .ok r') : r'.Delimited := by
  unfold Reader.step at hr
  split at hr
  · exact h.opening hr
  · exact h.closing hr
  · cases hr
    exact h.bar
  · obtain ⟨⟨a, c⟩, hclass, hrest⟩ := of_bind_eq_ok hr
    cases hrest
    exact h.push (delimited_of_readClass hclass) c
  · exact h.repeated hr
  · exact h.repeated hr
  · exact h.repeated hr
  · exact h.repeated hr
  · obtain ⟨⟨item, c⟩, -, hrest⟩ := of_bind_eq_ok hr
    cases hrest
    exact h.push item.delimited_toAst c

theorem finish (h : r.Delimited) {a : Ast} (ha : r.finish = .ok a) : a.Delimited := by
  have hclose := h.close.1
  unfold Reader.finish at ha
  split at ha
  next heq =>
    cases ha
    rwa [heq] at hclose
  next => cases ha
  next heq =>
    cases ha
    rwa [heq] at hclose

/-- Reading to the end keeps them too. -/
theorem run (h : r.Delimited) {fuel : Nat} {a : Ast} (ha : Reader.run fuel r = .ok a) :
    a.Delimited := by
  -- the fuel does not matter: each round is a step, and it ends with what has been read
  induction fuel generalizing r with
  | zero => exact h.finish ha
  | succ fuel ih =>
    have hskip : Reader.Delimited { r with cursor := r.cursor.skip } := ⟨h.sequence, h.stack⟩
    rw [Reader.run] at ha
    dsimp only at ha
    split at ha
    · exact hskip.finish ha
    · split at ha
      next hstep => exact ih (hskip.step hstep) ha
      next => cases ha

end Reader.Delimited

theorem delimited_parse {source : List Char} {a : Ast} (h : Ast.parse source = .ok a) :
    a.Delimited := by
  obtain ⟨whole, hrun, hrest⟩ := of_bind_eq_ok h
  have hwhole : whole.Delimited := by
    refine Reader.Delimited.run ⟨?_, ?_⟩ hrun
    · exact fun a ha => absurd ha List.not_mem_nil
    · exact fun f hf => absurd hf List.not_mem_nil
  split at hrest
  · cases hrest
  · cases hrest
    exact hwhole

/-! ## Meanings -/

/-- The names of all groups can be followed by `>`. -/
def Node.Delimited (n : Node) : Prop := ∀ x ∈ n.groupNames, '>' ∉ x.1

theorem Node.delimited_of_nil {n : Node} (h : n.groupNames = []) : n.Delimited := by
  intro x hx
  rw [h] at hx
  cases hx

theorem Node.groupNames_concat (ns : List Node) :
    (Node.concat ns).groupNames = ns.flatMap Node.groupNames := by
  induction ns with
  | nil => rfl
  | cons n ns ih =>
    rw [List.flatMap_cons, ← ih]
    cases ns with
    | nil => exact (List.append_nil _).symm
    | cons k ks => rfl

theorem Node.groupNames_alternation (ns : List Node) :
    (Node.alternation ns).groupNames = ns.flatMap Node.groupNames := by
  induction ns with
  | nil => rfl
  | cons n ns ih =>
    rw [List.flatMap_cons, ← ih]
    cases ns with
    | nil => exact (List.append_nil _).symm
    | cons k ks => rfl

/-- An expression whose names are those of its parts. -/
theorem Node.delimited_of_flatMap {n : Node} {ns : List Node}
    (h : n.groupNames = ns.flatMap Node.groupNames) (hns : ∀ m ∈ ns, m.Delimited) :
    n.Delimited := by
  intro x hx
  rw [h] at hx
  obtain ⟨m, hm, hxm⟩ := List.mem_flatMap.mp hx
  exact hns m hm x hxm

theorem Node.Delimited.repeated {n : Node} (h : n.Delimited) (least : Nat) (most : Option Nat)
    (greedy : Bool) : (n.repeated least most greedy).Delimited := by
  unfold Node.repeated
  dsimp only
  -- how often it is repeated does not matter
  generalize (if n.onlyEmpty then min least 1 else least) = l
  generalize (if n.onlyEmpty then some (min (most.getD 1) 1) else most) = k
  split
  · exact delimited_of_nil rfl
  · split
    · exact h
    · exact h

theorem Node.Delimited.capture {n : Node} (h : n.Delimited) {i : Nat} {name : Option (List Char)}
    (hname : GroupKind.Delimited (.capture i name)) : (Node.capture i name n).Delimited := by
  cases name with
  | none => exact h
  | some name =>
    intro x hx
    rcases List.mem_cons.mp hx with rfl | hx
    · exact hname
    · exact h x hx

theorem delimited_literalNode (mode : Mode) (c : Char) : (literalNode mode c).Delimited := by
  unfold literalNode
  dsimp only
  split <;> exact Node.delimited_of_nil rfl

mutual
/-- Working out the meaning of an expression brings in no names. -/
theorem Ast.Delimited.meaningFrom {a : Ast} (h : a.Delimited) {mode after : Mode} {n : Node}
    (hn : a.meaningFrom mode = .ok (n, after)) : n.Delimited := by
  -- names come from groups alone; all other nodes hand on those of their parts
  match a with
  | .empty _ | .modifiers _ _ | .assertion _ _ =>
    cases hn
    exact Node.delimited_of_nil rfl
  | .literal l =>
    obtain ⟨c, -, hc⟩ := of_bind_eq_ok hn
    cases hc
    exact delimited_literalNode mode c
  | .dot _ =>
    rw [Ast.meaningFrom] at hn
    split at hn
    · cases hn
      exact Node.delimited_of_nil rfl
    · cases hn
  | .shorthand _ _ _ | .property _ _ _ =>
    obtain ⟨set, -, hset⟩ := of_bind_eq_ok hn
    cases hset
    exact Node.delimited_of_nil rfl
  | .bracketed _ _ _ =>
    obtain ⟨inner, -, hinner⟩ := of_bind_eq_ok hn
    obtain ⟨set, -, hset⟩ := of_bind_eq_ok hinner
    cases hset
    exact Node.delimited_of_nil rfl
  | .repetition _ least most greedy part =>
    obtain ⟨⟨m, mode'⟩, hm, hrest⟩ := of_bind_eq_ok hn
    cases hrest
    exact Node.Delimited.repeated (Ast.Delimited.meaningFrom (a := part) h hm) _ _ _
  | .group _ kind part =>
    cases kind with
    | capture i name =>
      obtain ⟨⟨m, mode'⟩, hm, hrest⟩ := of_bind_eq_ok hn
      cases hrest
      exact Node.Delimited.capture (Ast.Delimited.meaningFrom h.2 hm) h.1
    | plain ms =>
      obtain ⟨⟨m, mode'⟩, hm, hrest⟩ := of_bind_eq_ok hn
      cases hrest
      exact Ast.Delimited.meaningFrom h.2 hm
  | .alternation _ parts =>
    obtain ⟨⟨ns, mode'⟩, hns, hrest⟩ := of_bind_eq_ok hn
    cases hrest
    exact Node.delimited_of_flatMap (Node.groupNames_alternation ns)
      (Ast.AllDelimited.meaningsFrom h hns)
  | .concat _ parts =>
    obtain ⟨⟨ns, mode'⟩, hns, hrest⟩ := of_bind_eq_ok hn
    cases hrest
    exact Node.delimited_of_flatMap (Node.groupNames_concat ns)
      (Ast.AllDelimited.meaningsFrom h hns)

/-- So does working out the meanings of some expressions. -/
theorem Ast.AllDelimited.meaningsFrom {as : List Ast} (h : Ast.AllDelimited as)
    {mode after : Mode} {ns : List Node} (hns : Ast.meaningsFrom mode as = .ok (ns, after)) :
    ∀ n ∈ ns, n.Delimited := by
  match as with
  | [] =>
    cases hns
    exact fun n hn => absurd hn List.not_mem_nil
  | a :: as =>
    obtain ⟨⟨n, mode'⟩, hn, hrest⟩ := of_bind_eq_ok hns
    obtain ⟨⟨ms, mode''⟩, hms, hpure⟩ := of_bind_eq_ok hrest
    cases hpure
    intro m hm
    rcases List.mem_cons.mp hm with rfl | hm
    · exact Ast.Delimited.meaningFrom h.1 hn
    · exact Ast.AllDelimited.meaningsFrom h.2 hms m hm
end

/-- The names of the groups of a compiled expression can be followed by `>`. -/
theorem delimited_of_compile {mode : Mode} {source : List Char} {r : Regex}
    (h : compile mode source = .ok r) : ∀ x ∈ r.names, '>' ∉ x.1 := by
  unfold compile at h
  split at h
  · cases h
  next n hn =>
    split at h
    · cases h
    · cases h
      obtain ⟨a, hparse, hmeaning⟩ := of_bind_eq_ok hn
      obtain ⟨⟨n', mode'⟩, hfrom, hrest⟩ := of_bind_eq_ok hmeaning
      cases hrest
      exact Ast.Delimited.meaningFrom (delimited_parse hparse) hfrom

end Remap.Regex
