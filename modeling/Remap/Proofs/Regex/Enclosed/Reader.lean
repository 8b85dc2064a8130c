import Mathlib.Data.List.Chain
import Remap.Proofs.Regex.Enclosed.Bracket
import Remap.Proofs.Regex.Enclosed.Group
/-!
# An expression in parentheses

An expression that is well formed alone is a single group when it is put in parentheses, if these
close at all: a comment in verbose mode can swallow the closing one.

`Reader.Enclosed` compares the reader of the expression alone with the one that has come to the same
place in the parentheses. The frame of the parentheses lies below all others, and each round of the
reader keeps it there.

Main statements: `Reader.Enclosed.step`, and on the whole expression with the sign of the start of a
text before it `Ast.bare_parse_anchored` and `Ast.meaning_parse_anchored`.
-/

namespace Remap.Regex

/-! ## Frames -/

/-- The parts of a sequence without their spans. -/
def Sequence.bare (s : Sequence) : Sequence := { start := {}, parts := s.parts.map Ast.bare }

/-- A frame without its spans. -/
def GroupFrame.bare : GroupFrame → GroupFrame
  | group before _ kind verbose => .group before.bare {} kind verbose
  | alternatives _ done => .alternatives {} (done.map Ast.bare)

/-- Whether a group was opened, not only a bar read. -/
def GroupFrame.isGroup : GroupFrame → Bool
  | group _ _ _ _ => true
  | alternatives _ _ => false

/-- No two frames of alternatives lie on each other. -/
def Layered (stack : List GroupFrame) : Prop :=
  stack.IsChain fun f g => f.isGroup = true ∨ g.isGroup = true

theorem Sequence.bare_toAst {s s' : Sequence} (h : s'.bare = s.bare) (stop stop' : Position) :
    (s'.toAst stop').bare = (s.toAst stop).bare := by
  have hbare : ∀ (s : Sequence) (stop : Position), (s.toAst stop).bare = s.bare.toAst {} := by
    rintro ⟨start, parts⟩ stop
    match parts with
    | [] => rfl
    | [_] => rfl
    | a :: b :: parts =>
      show Ast.concat {} (Ast.allBare (a :: b :: parts).reverse) =
        .concat {} ((a :: b :: parts).map Ast.bare).reverse
      rw [Ast.allBare_eq_map, List.map_reverse]
  rw [hbare, hbare, h]

theorem Sequence.bare_push {s s' : Sequence} {a b : Ast} (h : s'.bare = s.bare)
    (hab : b.bare = a.bare) : (s'.push b).bare = (s.push a).bare := by
  have hparts : s'.parts.map Ast.bare = s.parts.map Ast.bare := congrArg Sequence.parts h
  simp only [Sequence.bare, Sequence.push, List.map_cons, hparts, hab]

theorem Ast.eq_empty_of_bare {a : Ast} (h : a.bare = .empty {}) : ∃ span, a = .empty span := by
  cases a with
  | empty span => exact ⟨span, rfl⟩
  | _ => cases h

theorem Ast.eq_modifiers_of_bare {a : Ast} {ms : Modifiers} (h : a.bare = .modifiers {} ms) :
    ∃ span, a = .modifiers span ms := by
  cases a with
  | modifiers span ms' =>
    obtain rfl := (Ast.modifiers.inj h).2
    exact ⟨span, rfl⟩
  | _ => cases h

/-! ## Readers -/

namespace Reader

/-- The frame of parentheses that stand behind `\A` and were opened by `(?:`. -/
def outerFrame : GroupFrame :=
  .group { start := {}, parts := [.assertion {} .startText] } {} (.plain []) false

/-- The second reader stands in the parentheses where the first one stands without them. -/
structure Enclosed (n : Nat) (r s : Reader) : Prop where
  cursor : r.cursor.Enclosed n s.cursor
  stack : s.stack.map GroupFrame.bare = r.stack.map GroupFrame.bare ++ [outerFrame]
  sequence : s.sequence.bare = r.sequence.bare
  groups : s.groups = r.groups
  names : s.names.map Prod.fst = r.names.map Prod.fst
  layered : Layered r.stack

variable {n : Nat} {r s : Reader}

/-! ### Alternatives on the stack -/

/-- No bar has been read since the last group was opened. -/
def NoBar (stack : List GroupFrame) : Prop := ∀ f ∈ stack.head?, f.isGroup = true

theorem noBar_nil : NoBar [] := fun _ hf => nomatch hf

theorem noBar_group (before : Sequence) (span : Span) (kind : GroupKind) (verbose : Bool)
    (rest : List GroupFrame) : NoBar (.group before span kind verbose :: rest) := by
  intro f hf
  obtain rfl := Option.some.inj hf
  rfl

theorem not_noBar_alternatives (start : Position) (done : List Ast) (rest : List GroupFrame) :
    ¬ NoBar (.alternatives start done :: rest) := fun h => Bool.false_ne_true (h _ rfl)

theorem close_of_noBar (h : NoBar r.stack) :
    r.close = (r.sequence.toAst r.cursor.pos, r.stack) := by
  unfold close
  split
  next heq => exact absurd (heq ▸ h) (not_noBar_alternatives _ _ _)
  next => rfl

theorem stack_bar_of_noBar (h : NoBar r.stack) :
    r.bar.stack = .alternatives r.sequence.start [r.sequence.toAst r.cursor.pos] :: r.stack := by
  unfold bar
  dsimp only
  split
  next heq => exact absurd (heq ▸ h) (not_noBar_alternatives _ _ _)
  next => rfl

theorem close_of_alternatives {start : Position} {done : List Ast} {rest : List GroupFrame}
    (h : r.stack = .alternatives start done :: rest) :
    r.close = (.alternation ⟨start, r.cursor.pos⟩
      (r.sequence.toAst r.cursor.pos :: done).reverse, rest) := by
  unfold close
  rw [h]

theorem stack_bar_of_alternatives {start : Position} {done : List Ast} {rest : List GroupFrame}
    (h : r.stack = .alternatives start done :: rest) :
    r.bar.stack = .alternatives start (r.sequence.toAst r.cursor.pos :: done) :: rest := by
  unfold bar
  rw [h]

theorem noBar_or_alternatives (stack : List GroupFrame) :
    NoBar stack ∨ ∃ start done rest, stack = .alternatives start done :: rest := by
  match stack with
  | [] => exact .inl noBar_nil
  | .group _ _ _ _ :: _ => exact .inl (noBar_group _ _ _ _ _)
  | .alternatives start done :: rest => exact .inr ⟨start, done, rest, rfl⟩

theorem noBar_tail {f : GroupFrame} {rest : List GroupFrame} (h : Layered (f :: rest))
    (hf : f.isGroup = false) : NoBar rest := fun g hg =>
  ((List.isChain_cons.mp h).1 g hg).resolve_left (ne_true_of_eq_false hf)

/-- What is closed lies on a group, or on nothing. -/
theorem noBar_close (h : Layered r.stack) : Layered r.close.2 ∧ NoBar r.close.2 := by
  obtain hno | ⟨start, done, rest, hstack⟩ := noBar_or_alternatives r.stack
  · rw [close_of_noBar hno]
    exact ⟨h, hno⟩
  · rw [close_of_alternatives hstack]
    rw [hstack] at h
    exact ⟨h.tail, noBar_tail h rfl⟩

/-- A bar puts alternatives on a group only, or on nothing. -/
theorem layered_bar (h : Layered r.stack) : Layered r.bar.stack := by
  obtain hno | ⟨start, done, rest, hstack⟩ := noBar_or_alternatives r.stack
  · rw [stack_bar_of_noBar hno]
    exact List.isChain_cons.mpr ⟨fun f hf => .inr (hno f hf), h⟩
  · rw [stack_bar_of_alternatives hstack]
    rw [hstack] at h
    exact List.isChain_cons.mpr ⟨fun f hf => .inr (noBar_tail h rfl f hf), h.tail⟩

namespace Enclosed

/-! ### Steps -/

/-- A bar has been read in both or in neither. -/
theorem stack_cases (h : r.Enclosed n s) : (NoBar r.stack ∧ NoBar s.stack) ∨
    ∃ start start' done done' rest rest', r.stack = .alternatives start done :: rest ∧
      s.stack = .alternatives start' done' :: rest' ∧
      done'.map Ast.bare = done.map Ast.bare ∧
      rest'.map GroupFrame.bare = rest.map GroupFrame.bare ++ [outerFrame] := by
  have hstack := h.stack
  generalize r.stack = stack, s.stack = stack' at hstack ⊢
  -- the outer frame is a group at the bottom of the second stack, so only frames of a kind can
  -- match
  match stack, stack' with
  | [], [] | _ :: _, [] => cases hstack
  | [], .alternatives _ _ :: _ => cases (List.cons.inj hstack).1
  | .group _ _ _ _ :: _, .alternatives _ _ :: _ => cases (List.cons.inj hstack).1
  | .alternatives _ _ :: _, .group _ _ _ _ :: _ => cases (List.cons.inj hstack).1
  | [], .group _ _ _ _ :: _ =>
    exact .inl ⟨noBar_nil, noBar_group _ _ _ _ _⟩
  | .group _ _ _ _ :: _, .group _ _ _ _ :: _ =>
    exact .inl ⟨noBar_group _ _ _ _ _, noBar_group _ _ _ _ _⟩
  | .alternatives _ _ :: _, .alternatives _ _ :: _ =>
    obtain ⟨hframe, hrest⟩ := List.cons.inj hstack
    exact .inr ⟨_, _, _, _, _, _, rfl, rfl, (GroupFrame.alternatives.inj hframe).2, hrest⟩

/-- Both readers close the same expression, with the same frames below it but for the last. -/
theorem close (h : r.Enclosed n s) : s.close.1.bare = r.close.1.bare ∧
    s.close.2.map GroupFrame.bare = r.close.2.map GroupFrame.bare ++ [outerFrame] := by
  have hlast := Sequence.bare_toAst h.sequence r.cursor.pos s.cursor.pos
  obtain ⟨hr, hs⟩ | ⟨_, _, _, _, _, _, hr, hs, hdone, hrest⟩ := h.stack_cases
  · rw [close_of_noBar hr, close_of_noBar hs]
    exact ⟨hlast, h.stack⟩
  · rw [close_of_alternatives hr, close_of_alternatives hs]
    refine ⟨?_, hrest⟩
    simp only [Ast.bare, Ast.allBare_eq_map, List.map_reverse, List.map_cons, hlast, hdone]

theorem bar (h : r.Enclosed n s) : r.bar.Enclosed (n - 1) s.bar := by
  refine ⟨h.cursor.advance, ?_, rfl, h.groups, h.names, layered_bar h.layered⟩
  have hlast := Sequence.bare_toAst h.sequence r.cursor.pos s.cursor.pos
  obtain ⟨hr, hs⟩ | ⟨_, _, _, _, _, _, hr, hs, hdone, hrest⟩ := h.stack_cases
  · rw [stack_bar_of_noBar hr, stack_bar_of_noBar hs, List.map_cons, h.stack]
    simp only [GroupFrame.bare, List.map_cons, List.map_nil, hlast, List.cons_append]
  · rw [stack_bar_of_alternatives hr, stack_bar_of_alternatives hs, List.map_cons, hrest]
    simp only [GroupFrame.bare, List.map_cons, hlast, hdone, List.cons_append]

/-- A group is opened alike. -/
theorem enter (h : r.Enclosed n s) {c d : Cursor} {m : Nat} (hc : c.Enclosed m d)
    (kind : GroupKind) (verbose : Bool) :
    (r.enter kind verbose c).Enclosed m (s.enter kind verbose d) := by
  refine ⟨⟨hc.length_le, rfl, hc.rest_eq⟩, ?_, rfl, h.groups, h.names, ?_⟩
  · refine congrArg₂ List.cons ?_ h.stack
    simp only [GroupFrame.bare, h.sequence, hc.verbose_eq]
  · exact List.isChain_cons.mpr ⟨fun _ _ => .inl rfl, h.layered⟩

theorem push (h : r.Enclosed n s) {c d : Cursor} {m : Nat} (hc : c.Enclosed m d) {a b : Ast}
    (hab : b.bare = a.bare) :
    Enclosed m { r with cursor := c, sequence := r.sequence.push a }
      { s with cursor := d, sequence := s.sequence.push b } :=
  ⟨hc, h.stack, Sequence.bare_push h.sequence hab, h.groups, h.names, h.layered⟩

theorem numbered (h : r.Enclosed n s) :
    Enclosed n { r with groups := r.groups + 1 } { s with groups := r.groups + 1 } :=
  { h with groups := rfl }

theorem withName (h : r.Enclosed n s) (name : List Char) (span span' : Span) :
    Enclosed n { r with groups := r.groups + 1, names := (name, span) :: r.names }
      { s with groups := r.groups + 1, names := (name, span') :: s.names } :=
  { h with groups := rfl, names := congrArg (name :: ·) h.names }

theorem opening (h : r.Enclosed n s) : Follows (Enclosed (n - 1)) r.opening s.opening := by
  apply (follows_readOpening h.cursor h.names).bind
  rintro ⟨o, c⟩ ⟨o', d⟩ ⟨hsame, hc⟩
  cases o with
  | directive span ms =>
    cases o' with
    | directive span' ms' =>
      obtain rfl : ms' = ms := (Opening.directive.inj hsame).2
      dsimp only
      rw [hc.verbose_eq]
      exact .ok (h.push (hc.withVerbose _) rfl)
    | _ => cases hsame
  | numbered =>
    cases o' with
    | numbered =>
      dsimp only
      rw [hc.verbose_eq, h.groups]
      exact .ok (h.numbered.enter hc _ _)
    | _ => cases hsame
  | withName name span =>
    cases o' with
    | withName name' span' =>
      obtain rfl : name' = name := (Opening.withName.inj hsame).1
      dsimp only
      rw [hc.verbose_eq, h.groups]
      exact .ok ((h.withName _ _ _).enter hc _ _)
    | _ => cases hsame
  | plain ms =>
    cases o' with
    | plain ms' =>
      obtain rfl : ms' = ms := Opening.plain.inj hsame
      dsimp only
      rw [hc.verbose_eq]
      exact .ok (h.enter hc _ _)
    | _ => cases hsame

/-- A parenthesis that closes a group of the expression alone closes the same group in parentheses,
not the parentheses themselves. -/
theorem closing (h : r.Enclosed n s) : Follows (Enclosed (n - 1)) r.closing s.closing := by
  obtain ⟨hinner, hframes⟩ := h.close
  have hlayered := (noBar_close h.layered).1
  unfold Reader.closing
  generalize r.close = closed, s.close = closed' at hinner hframes hlayered ⊢
  obtain ⟨inner, frames⟩ := closed
  obtain ⟨inner', frames'⟩ := closed'
  -- where `r` has no group to close it is at fault, and nothing is asked of the other reader
  match frames, frames' with
  | [], _ => exact .fault
  | .alternatives _ _ :: _, _ => exact .fault
  | .group _ _ _ _ :: _, [] => cases hframes
  | .group _ _ _ _ :: _, .alternatives _ _ :: _ => cases (List.cons.inj hframes).1
  | .group before _ kind verbose :: _, .group before' _ kind' verbose' :: _ =>
    obtain ⟨hframe, hrest⟩ := List.cons.inj hframes
    obtain ⟨hbefore, -, hkind, hverbose⟩ := GroupFrame.group.inj hframe
    have hinner : inner'.bare = inner.bare := hinner
    obtain rfl : kind' = kind := hkind
    obtain rfl : verbose' = verbose := hverbose
    have hgroup (span span' : Span) :
        (Ast.group span' kind' inner').bare = (Ast.group span kind' inner).bare := by
      simp only [Ast.bare, hinner]
    exact .ok ⟨h.cursor.advance.withVerbose _, hrest, Sequence.bare_push hbefore (hgroup _ _),
      h.groups, h.names, hlayered.tail⟩

theorem repeated (h : r.Enclosed n s) (sign : Char) :
    Follows (Enclosed (n - 1)) (r.repeated sign) (s.repeated sign) := by
  have hparts : s.sequence.parts.map Ast.bare = r.sequence.parts.map Ast.bare :=
    congrArg Sequence.parts h.sequence
  unfold Reader.repeated
  dsimp only
  -- whether the part before the sign can be repeated does not depend on its span
  split
  · exact .fault
  · exact .fault
  · exact .fault
  next part parts hempty hmodifiers heq =>
    rw [heq] at hparts
    split
    next heq' => rw [heq'] at hparts; cases hparts
    next heq' =>
      rw [heq'] at hparts
      obtain ⟨span, rfl⟩ := Ast.eq_empty_of_bare (List.cons.inj hparts).1.symm
      exact (hempty _ rfl).elim
    next heq' =>
      rw [heq'] at hparts
      obtain ⟨span, rfl⟩ := Ast.eq_modifiers_of_bare (List.cons.inj hparts).1.symm
      exact (hmodifiers _ _ rfl).elim
    next part' parts' _ _ heq' =>
      rw [heq'] at hparts
      obtain ⟨hpart, hparts⟩ := List.cons.inj hparts
      apply (follows_readRepetition h.cursor sign).bind
      rintro ⟨⟨count, greedy⟩, c⟩ ⟨⟨count', greedy'⟩, d⟩ ⟨hsame, hc⟩
      obtain ⟨rfl, rfl⟩ : count' = count ∧ greedy' = greedy := Prod.mk.inj hsame
      refine .ok ⟨hc, h.stack, ?_, h.groups, h.names, h.layered⟩
      simp only [Sequence.bare, List.map_cons, Ast.bare, hpart, hparts]

/-- One more part is read alike. -/
theorem step (h : r.Enclosed n s) (x : Char) :
    Follows (Enclosed (n - 1)) (r.step x) (s.step x) := by
  unfold Reader.step
  split
  · exact h.opening
  · exact h.closing
  · exact .ok h.bar
  · exact (follows_readClass h.cursor).bind fun _ _ hac => .ok (h.push hac.2 hac.1)
  · exact h.repeated _
  · exact h.repeated _
  · exact h.repeated _
  · exact h.repeated _
  · apply (follows_readItem h.cursor x).bind
    rintro ⟨i, c⟩ ⟨j, d⟩ ⟨hij, hc⟩
    refine .ok (h.push hc ?_)
    rw [Item.bare_toAst, Item.bare_toAst, show j.bare = i.bare from hij]

/-! ### The end -/

theorem skip (h : r.Enclosed n s) :
    Enclosed n { r with cursor := r.cursor.skip } { s with cursor := s.cursor.skip } :=
  { h with cursor := h.cursor.skip }

end Enclosed

theorem close_of_finish (h : Layered r.stack) {a : Ast} (ha : r.finish = .ok a) :
    r.close = (a, []) := by
  have hno := (noBar_close h).2
  unfold finish at ha
  generalize r.close = closed at hno ha ⊢
  obtain ⟨whole, frames⟩ := closed
  match frames with
  | [] => exact congrArg (·, []) (Except.ok.inj ha)
  | .group _ _ _ _ :: _ => cases ha
  | .alternatives _ _ :: _ => exact absurd hno (not_noBar_alternatives _ _ _)

/-- Nothing is left to read behind the last parenthesis. -/
theorem run_of_rest_eq_nil (hrest : r.cursor.rest = []) (hverbose : r.cursor.verbose = false)
    (hstack : r.stack = []) (k : Nat) : r.run k = .ok (r.sequence.toAst r.cursor.pos) := by
  have hfinish : r.finish = .ok (r.sequence.toAst r.cursor.pos) := by
    have hno : NoBar r.stack := hstack ▸ noBar_nil
    rw [finish, close_of_noBar hno, hstack]
  have hskip : r.cursor.skip = r.cursor := by
    rw [Cursor.skip, hverbose]
    rfl
  cases k with
  | zero => exact hfinish
  | succ k =>
    rw [run, hskip, Cursor.peek, hrest]
    exact hfinish

theorem eq_group_of_bare {f : GroupFrame} (h : f.bare = outerFrame) :
    ∃ before span, f = .group before span (.plain []) false ∧
      before.bare = { start := {}, parts := [.assertion {} .startText] } := by
  cases f with
  | group before span kind verbose =>
    obtain ⟨hbefore, -, hkind, hverbose⟩ := GroupFrame.group.inj h
    exact ⟨before, span, by rw [hkind, hverbose], hbefore⟩
  | alternatives => cases h

/-- What remains where the expression alone has been read to its end: the closing parenthesis, which
makes a group of the expression, or nothing, so that the group is never closed. -/
theorem Enclosed.finish (h : r.Enclosed n s) (hr : r.cursor.peek = none) {a : Ast}
    (ha : r.finish = .ok a) :
    (∃ e, s.cursor.peek = none ∧ s.finish = .error e) ∨
      s.cursor.peek = some ')' ∧ ∃ t, s.closing = .ok t ∧ ∀ k, ∃ b, t.run k = .ok b ∧
        b.bare = .concat {} [.assertion {} .startText, .group {} (.plain []) a.bare] := by
  have hnil := Cursor.Enclosed.rest_of_peek_eq_none hr
  obtain ⟨hinner, hframes⟩ := h.close
  rw [close_of_finish h.layered ha] at hinner hframes
  obtain ⟨f, hf, hframe⟩ := List.map_eq_singleton_iff.mp hframes
  obtain ⟨before, span, rfl, hbefore⟩ := eq_group_of_bare hframe
  have hclose : s.close = (s.close.1, [.group before span (.plain []) false]) :=
    Prod.ext rfl hf
  -- either the added parenthesis is what is left, or a comment has swallowed it
  rcases h.cursor.rest_eq with hrest | ⟨-, hrest⟩
  · right
    rw [hnil, List.nil_append] at hrest
    refine ⟨by rw [Cursor.peek, hrest]; rfl, ?_⟩
    unfold Reader.closing
    rw [hclose]
    refine ⟨_, rfl, fun k => ⟨_, run_of_rest_eq_nil ?_ rfl rfl k, ?_⟩⟩
    · show s.cursor.advance.rest = []
      rw [Cursor.rest_advance, hrest]
      rfl
    · have hgroup (span : Span) : (Ast.group span (.plain []) s.close.1).bare =
          (Ast.group {} (.plain []) a).bare := congrArg (Ast.group {} (.plain [])) hinner
      have hbefore : before.bare =
          ({ start := {}, parts := [.assertion {} .startText] } : Sequence).bare := hbefore
      exact Sequence.bare_toAst (Sequence.bare_push hbefore (hgroup _)) {} _
  · left
    refine ⟨⟨.groupUnclosed, span, none⟩, by rw [Cursor.peek, hrest]; rfl, ?_⟩
    unfold Reader.finish
    rw [hclose]
    rfl

/-- If the parentheses close, the expression in them is the group of what it is alone. -/
theorem Enclosed.run {m k : Nat} (h : r.Enclosed n s) (hm : n < m) (hk : m < k) {a b : Ast}
    (ha : r.run m = .ok a) (hb : s.run k = .ok b) :
    b.bare = .concat {} [.assertion {} .startText, .group {} (.plain []) a.bare] := by
  -- each round reads a character, so the rounds are not used up before the expression is
  induction m generalizing n r s k with
  | zero => exact absurd hm (Nat.not_lt_zero n)
  | succ m ih =>
    obtain ⟨k, rfl⟩ : ∃ i, k = i + 1 := ⟨k - 1, by omega⟩
    have hskip := h.skip
    rw [Reader.run] at ha hb
    dsimp only at ha hb
    cases hp : r.cursor.skip.peek with
    | none =>
      rw [hp] at ha
      obtain ⟨e, hs, hfinish⟩ | ⟨hs, t, ht, hend⟩ := hskip.finish hp ha
      · rw [hs, hfinish] at hb
        cases hb
      · have hstep : Reader.step ')' { s with cursor := s.cursor.skip } = .ok t := ht
        obtain ⟨b', hb', hbare⟩ := hend k
        rw [hs] at hb
        dsimp only at hb
        rw [hstep] at hb
        have hb : t.run k = .ok b := hb
        rw [hb'] at hb
        exact Except.ok.inj hb ▸ hbare
    | some x =>
      have hpos := hskip.cursor.pos_of_peek hp
      rw [hp] at ha
      rw [hskip.cursor.peek_of_some hp] at hb
      dsimp only at ha hb
      cases hr : Reader.step x { r with cursor := r.cursor.skip } with
      | error e =>
        rw [hr] at ha
        cases ha
      | ok r' =>
        obtain ⟨s', hs, hnext⟩ := (hskip.step x).exists_of_eq_ok hr
        rw [hr] at ha
        rw [hs] at hb
        exact ih hnext (by omega) (by omega) ha hb

/-- The reader at the start of an expression. -/
def initial (source : List Char) : Reader :=
  { cursor := { rest := source }, sequence := { start := {} } }

/-- The reader behind `\A(?:`. -/
def anchored (rest : List Char) : Reader where
  cursor := { rest, pos := ⟨5, 1, 6⟩ }
  stack := [.group { start := {}, parts := [.assertion ⟨{}, ⟨2, 1, 3⟩⟩ .startText] }
    ⟨⟨2, 1, 3⟩, ⟨3, 1, 4⟩⟩ (.plain []) false]
  sequence := { start := ⟨5, 1, 6⟩ }

/-- Two rounds read `\A` and `(?:`. -/
theorem run_anchored (rest : List Char) (k : Nat) :
    (initial ("\\A(?:".toList ++ rest)).run (k + 2) = (anchored rest).run k := by
  rfl

theorem enclosed_anchored (source : List Char) :
    (initial source).Enclosed source.length (anchored (source ++ [')'])) where
  cursor := ⟨Nat.le_refl _, rfl, .inl rfl⟩
  stack := rfl
  sequence := rfl
  groups := rfl
  names := rfl
  layered := .nil

theorem run_of_parse {source : List Char} {a : Ast} (h : Ast.parse source = .ok a) :
    (initial source).run (source.length + 1) = .ok a := by
  obtain ⟨whole, hrun, h⟩ := of_bind_eq_ok h
  split at h
  · cases h
  · cases h
    exact hrun

end Reader

/-- An expression behind `\A` and in parentheses is the expression as a group, behind the sign of
the start of a text. -/
theorem Ast.bare_parse_anchored {source : List Char} {a b : Ast} (ha : Ast.parse source = .ok a)
    (hb : Ast.parse ("\\A(?:".toList ++ (source ++ [')'])) = .ok b) :
    b.bare = .concat {} [.assertion {} .startText, .group {} (.plain []) a.bare] := by
  have hrun := Reader.run_of_parse hb
  have hlength : ("\\A(?:".toList ++ (source ++ [')'])).length + 1 = source.length + 5 + 2 := by
    have hfive : "\\A(?:".toList.length = 5 := rfl
    simp only [List.length_append, List.length_singleton, hfive]
    omega
  rw [hlength, Reader.run_anchored] at hrun
  exact (Reader.enclosed_anchored source).run (Nat.lt_succ_self _) (by omega)
    (Reader.run_of_parse ha) hrun

/-! ## Meanings -/

/-- An expression behind `\A` and in parentheses matches the start of a text, and then what the
expression matches. -/
theorem Ast.meaning_parse_anchored {mode : Mode} {source : List Char} {m n : Node}
    (hn : (Ast.parse source).bind (Ast.meaning mode) = .ok n)
    (hm : (Ast.parse ("\\A(?:".toList ++ (source ++ [')']))).bind (Ast.meaning mode) = .ok m) :
    m = .seq (.look .textStart) n := by
  obtain ⟨a, ha, hn⟩ := of_bind_eq_ok hn
  obtain ⟨b, hb, hm⟩ := of_bind_eq_ok hm
  have hbare := Ast.bare_parse_anchored ha hb
  have hgroup : (Ast.concat {} [.assertion {} .startText, .group {} (.plain []) a]).meaning mode =
      .ok (.seq (.look .textStart) n) := by
    obtain ⟨⟨n', mode'⟩, hfrom, hsame⟩ := of_bind_eq_ok hn
    obtain rfl : n' = n := Except.ok.inj hsame
    have hplain : a.meaningFrom (mode.switchAll []) = .ok (n', mode') := hfrom
    simp only [Ast.meaning, Ast.meaningFrom, Ast.meaningsFrom, bind, Except.bind, hplain]
    rfl
  exact Ast.eq_of_meaning_of_bare_eq hbare hm hgroup

end Remap.Regex
