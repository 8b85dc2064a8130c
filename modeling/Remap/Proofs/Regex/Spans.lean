import Remap.Regex.Basic
/-!
# Spans

An expression says of each of its parts where it stands, so that errors can show it. Without these
spans it has the same meaning: they only come into errors.

Two ways of reading are compared by `Follows`: the second one gives what the first one gives, up to
a relation.

Main statements: `Ast.follows_meaningFrom_bare` and `Ast.eq_of_meaning_of_bare_eq`.
-/

namespace Remap.Regex

/-! ## Reading in two ways -/

variable {α β γ δ : Type}

/-- The second reading succeeds whenever the first one does, with a result that is related to that
of the first one. -/
inductive Follows (R : α → β → Prop) : Reading α → Reading β → Prop
  | error {e : SyntaxError} {y : Reading β} : Follows R (.error e) y
  | ok {a : α} {b : β} : R a b → Follows R (.ok a) (.ok b)

namespace Follows

theorem fault {R : α → β → Prop} {f : SyntaxFault} {span : Span} {y : Reading β} :
    Follows R (Regex.fault f span) y := .error

theorem exists_of_eq_ok {R : α → β → Prop} {x : Reading α} {y : Reading β} {a : α}
    (h : Follows R x y) (hx : x = .ok a) : ∃ b, y = .ok b ∧ R a b := by
  cases h with
  | error => cases hx
  | ok hr =>
    cases hx
    exact ⟨_, rfl, hr⟩

theorem eq_of_eq_ok {x y : Reading α} {a : α} (h : Follows Eq x y) (hx : x = .ok a) :
    y = .ok a := by
  obtain ⟨b, hy, rfl⟩ := h.exists_of_eq_ok hx
  exact hy

theorem imp {R Q : α → β → Prop} {x : Reading α} {y : Reading β} (h : Follows R x y)
    (hRQ : ∀ a b, R a b → Q a b) : Follows Q x y := by
  cases h with
  | error => exact .error
  | ok hr => exact .ok (hRQ _ _ hr)

/-- What follows step by step follows as a whole. -/
theorem bind {R : α → β → Prop} {Q : γ → δ → Prop} {x : Reading α} {y : Reading β}
    {f : α → Reading γ} {g : β → Reading δ} (h : Follows R x y)
    (hfg : ∀ a b, R a b → Follows Q (f a) (g b)) : Follows Q (x >>= f) (y >>= g) := by
  cases h with
  | error => exact .error
  | ok hr => exact hfg _ _ hr

/-- The second step may be the same function, if the first one gives the same result. -/
theorem bind_eq {Q : γ → δ → Prop} {x y : Reading α} {f : α → Reading γ} {g : α → Reading δ}
    (h : Follows Eq x y) (hfg : ∀ a, Follows Q (f a) (g a)) : Follows Q (x >>= f) (y >>= g) :=
  h.bind fun a _ hab => hab ▸ hfg a

/-- Where the same is asked, the answers may be compared one by one. -/
theorem ite_of_iff {R : α → β → Prop} {p q : Prop} [Decidable p] [Decidable q]
    {x x' : Reading α} {y y' : Reading β} (hpq : q ↔ p) (h : p → Follows R x y)
    (h' : ¬ p → Follows R x' y') : Follows R (if p then x else x') (if q then y else y') := by
  by_cases hp : p
  · rw [if_pos hp, if_pos (hpq.mpr hp)]
    exact h hp
  · rw [if_neg hp, if_neg (mt hpq.mp hp)]
    exact h' hp

theorem ite {R : α → β → Prop} {p : Prop} [Decidable p] {x x' : Reading α} {y y' : Reading β}
    (h : p → Follows R x y) (h' : ¬ p → Follows R x' y') :
    Follows R (if p then x else x') (if p then y else y') := ite_of_iff Iff.rfl h h'

end Follows

/-! ## Without spans -/

/-- The character alone. -/
def Literal.bare (l : Literal) : Literal := { l with span := {} }

mutual
/-- A part of a class without its spans. -/
def ClassSet.bare : ClassSet → ClassSet
  | empty _ => .empty {}
  | literal l => .literal l.bare
  | range _ first last => .range {} first.bare last.bare
  | named _ negated k => .named {} negated k
  | shorthand _ negated k => .shorthand {} negated k
  | property _ negated q => .property {} negated q
  | bracketed _ negated set => .bracketed {} negated set.bare
  | union _ items => .union {} (ClassSet.allBare items)
  | operation _ op left right => .operation {} op left.bare right.bare

/-- Parts of a class without their spans. -/
def ClassSet.allBare : List ClassSet → List ClassSet
  | [] => []
  | c :: cs => c.bare :: ClassSet.allBare cs
end

mutual
/-- An expression without its spans. -/
def Ast.bare : Ast → Ast
  | empty _ => .empty {}
  | modifiers _ ms => .modifiers {} ms
  | literal l => .literal l.bare
  | dot _ => .dot {}
  | assertion _ k => .assertion {} k
  | shorthand _ negated k => .shorthand {} negated k
  | property _ negated q => .property {} negated q
  | bracketed _ negated set => .bracketed {} negated set.bare
  | repetition _ least most greedy part => .repetition {} least most greedy part.bare
  | group _ kind part => .group {} kind part.bare
  | alternation _ parts => .alternation {} (Ast.allBare parts)
  | concat _ parts => .concat {} (Ast.allBare parts)

/-- Expressions without their spans. -/
def Ast.allBare : List Ast → List Ast
  | [] => []
  | a :: as => a.bare :: Ast.allBare as
end

theorem ClassSet.allBare_eq_map (cs : List ClassSet) :
    ClassSet.allBare cs = cs.map ClassSet.bare := by
  induction cs with
  | nil => rfl
  | cons c cs ih => rw [ClassSet.allBare, ih, List.map_cons]

theorem Ast.allBare_eq_map (as : List Ast) : Ast.allBare as = as.map Ast.bare := by
  induction as with
  | nil => rfl
  | cons a as ih => rw [Ast.allBare, ih, List.map_cons]

/-! ## Meanings -/

theorem follows_complementIf (mode : Mode) (negated : Bool) (span span' : Span) (s : CharSet) :
    Follows Eq (mode.complementIf negated span s) (mode.complementIf negated span' s) :=
  .ite (fun _ => .ok rfl) fun _ => .fault

theorem follows_literalChar (mode : Mode) (l : Literal) :
    Follows Eq (literalChar mode l) (literalChar mode l.bare) :=
  .ite (fun _ => .fault) fun _ => .ok rfl

theorem follows_classChar (mode : Mode) (l : Literal) :
    Follows Eq (classChar mode l) (classChar mode l.bare) :=
  (follows_literalChar mode l).bind_eq fun _ => .ite (fun _ => .ok rfl) fun _ => .fault

theorem follows_propertySet (mode : Mode) (span span' : Span) (negated : Bool)
    (q : PropertyQuery) :
    Follows Eq (propertySet mode span negated q) (propertySet mode span' negated q) := by
  unfold propertySet
  apply Follows.ite
  · intro _
    dsimp only
    split
    · exact .fault
    · exact .fault
    · exact follows_complementIf mode negated span span' _
  · exact fun _ => .fault

mutual
/-- A part of a class has the same set without its spans. -/
theorem ClassSet.follows_meaning_bare (mode : Mode) (c : ClassSet) :
    Follows Eq (c.meaning mode) (c.bare.meaning mode) := by
  match c with
  | .empty _ => exact .ok rfl
  | .literal l => exact (follows_classChar mode l).bind_eq fun _ => .ok rfl
  | .range _ first last =>
    exact (follows_classChar mode first).bind_eq fun _ =>
      (follows_classChar mode last).bind_eq fun _ => .ok rfl
  | .named _ _ _ => exact follows_complementIf mode _ _ _ _
  | .shorthand _ _ _ => exact follows_complementIf mode _ _ _ _
  | .property _ _ _ => exact follows_propertySet mode _ _ _ _
  | .bracketed _ _ set =>
    exact (ClassSet.follows_meaning_bare mode set).bind_eq fun _ =>
      follows_complementIf mode _ _ _ _
  | .union _ items =>
    exact (ClassSet.follows_meanings_allBare mode items).bind_eq fun _ => .ok rfl
  | .operation _ _ left right =>
    exact (ClassSet.follows_meaning_bare mode left).bind_eq fun _ =>
      (ClassSet.follows_meaning_bare mode right).bind_eq fun _ => .ok rfl

theorem ClassSet.follows_meanings_allBare (mode : Mode) (cs : List ClassSet) :
    Follows Eq (ClassSet.meanings mode cs) (ClassSet.meanings mode (ClassSet.allBare cs)) := by
  match cs with
  | [] => exact .ok rfl
  | c :: cs =>
    exact (ClassSet.follows_meaning_bare mode c).bind_eq fun _ =>
      (ClassSet.follows_meanings_allBare mode cs).bind_eq fun _ => .ok rfl
end

mutual
/-- An expression has the same meaning without its spans. -/
theorem Ast.follows_meaningFrom_bare (mode : Mode) (a : Ast) :
    Follows Eq (a.meaningFrom mode) (a.bare.meaningFrom mode) := by
  -- spans are only used for errors, of which `Follows` asks no more than that there is one
  match a with
  | .empty _ | .modifiers _ _ | .assertion _ _ => exact .ok rfl
  | .literal l => exact (follows_literalChar mode l).bind_eq fun _ => .ok rfl
  | .dot _ => exact .ite (fun _ => .ok rfl) fun _ => .fault
  | .shorthand _ _ _ => exact (follows_complementIf mode _ _ _ _).bind_eq fun _ => .ok rfl
  | .property _ _ _ => exact (follows_propertySet mode _ _ _ _).bind_eq fun _ => .ok rfl
  | .bracketed _ _ set =>
    exact (ClassSet.follows_meaning_bare mode set).bind_eq fun _ =>
      (follows_complementIf mode _ _ _ _).bind_eq fun _ => .ok rfl
  | .repetition _ _ _ _ part =>
    exact (Ast.follows_meaningFrom_bare mode part).bind_eq fun _ => .ok rfl
  | .group _ (.capture _ _) part =>
    exact (Ast.follows_meaningFrom_bare mode part).bind_eq fun _ => .ok rfl
  | .group _ (.plain ms) part =>
    exact (Ast.follows_meaningFrom_bare (mode.switchAll ms) part).bind_eq fun _ => .ok rfl
  | .alternation _ parts =>
    exact (Ast.follows_meaningsFrom_allBare mode parts).bind_eq fun _ => .ok rfl
  | .concat _ parts =>
    exact (Ast.follows_meaningsFrom_allBare mode parts).bind_eq fun _ => .ok rfl

theorem Ast.follows_meaningsFrom_allBare (mode : Mode) (as : List Ast) :
    Follows Eq (Ast.meaningsFrom mode as) (Ast.meaningsFrom mode (Ast.allBare as)) := by
  match as with
  | [] => exact .ok rfl
  | a :: as =>
    exact (Ast.follows_meaningFrom_bare mode a).bind_eq fun x =>
      (Ast.follows_meaningsFrom_allBare x.2 as).bind_eq fun _ => .ok rfl
end

theorem Ast.follows_meaning_bare (mode : Mode) (a : Ast) :
    Follows Eq (a.meaning mode) (a.bare.meaning mode) :=
  (a.follows_meaningFrom_bare mode).bind_eq fun _ => .ok rfl

/-- Expressions that differ in their spans only cannot have different meanings. -/
theorem Ast.eq_of_meaning_of_bare_eq {mode : Mode} {a b : Ast} {m n : Node}
    (h : a.bare = b.bare) (ha : a.meaning mode = .ok m) (hb : b.meaning mode = .ok n) : m = n := by
  have hm := (a.follows_meaning_bare mode).eq_of_eq_ok ha
  have hn := (b.follows_meaning_bare mode).eq_of_eq_ok hb
  rw [h, hn] at hm
  exact (Except.ok.inj hm).symm

end Remap.Regex
