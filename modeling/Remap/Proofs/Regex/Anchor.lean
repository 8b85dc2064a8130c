import Remap.Proofs.Regex.Fuel
/-!
# Matches at the start of a text

An expression that has to match at the start of the text finds what the expression finds there, and
nothing if the first match of the expression is further on. Its program is that of the expression
with one instruction behind, which no other instruction leads to.

Main statements: `within_emit`, `explore_push` and `find_anchored`.
-/

namespace Remap.Regex

/-! ## Where instructions lead -/

/-- The instructions that can follow an instruction. -/
def Instr.targets : Instr → List Nat
  | accept => []
  | char _ next => [next]
  | set _ next => [next]
  | look _ next => [next]
  | mark _ next => [next]
  | split first second => [first, second]

theorem Instr.forall_targets_choice {P : Nat → Prop} {greedy : Bool} {body exit : Nat}
    (hbody : P body) (hexit : P exit) : ∀ t ∈ (choice greedy body exit).targets, P t := by
  cases greedy with
  | true => exact List.forall_mem_cons.mpr ⟨hbody, List.forall_mem_singleton.mpr hexit⟩
  | false => exact List.forall_mem_cons.mpr ⟨hexit, List.forall_mem_singleton.mpr hbody⟩

/-- The entry lies below `b`, and every instruction leads to one below `b`. -/
structure Within (b : Nat) (x : Nat × Program) : Prop where
  entry_lt : x.1 < b
  targets_lt : ∀ i ∈ x.2, ∀ t ∈ i.targets, t < b

variable {b : Nat}

theorem Within.push {x : Nat × Program} (h : Within b x) {i : Instr} {entry : Nat}
    (hi : ∀ t ∈ i.targets, t < b) (hentry : entry < b) : Within b (entry, x.2.push i) := by
  refine ⟨hentry, fun j hj => ?_⟩
  rcases Array.mem_push.mp hj with hj | rfl
  · exact h.targets_lt j hj
  · exact hi

theorem Within.enter {x : Nat × Program} (h : Within b x) {entry : Nat} (hentry : entry < b) :
    Within b (entry, x.2) := ⟨hentry, h.targets_lt⟩

theorem within_times {f : Nat × Program → Nat × Program} {k : Nat}
    (hsize : ∀ x, (f x).2.size = x.2.size + k)
    (hf : ∀ x, x.2.size + k ≤ b → Within b x → Within b (f x)) (n : Nat) {x : Nat × Program}
    (hle : x.2.size + n * k ≤ b) (hx : Within b x) : Within b (times f n x) := by
  induction n generalizing x with
  | zero => exact hx
  | succ n ih =>
    rw [Nat.succ_mul] at hle
    refine ih ?_ (hf x (by omega) hx)
    rw [hsize]
    omega

section

variable {emit : Nat → Program → Nat × Program} {size : Nat}
  (hemit : ∀ next p, p.size + size ≤ b → Within b (next, p) → Within b (emit next p))

include hemit

/-- A copy that can be left out. -/
theorem within_option {greedy : Bool} {next : Nat} {x : Nat × Program}
    (hsize : ∀ next p, (emit next p).2.size = p.size + size)
    (hle : x.2.size + (size + 1) ≤ b) (hnext : next < b) (h : Within b x) :
    Within b ((emit x.1 x.2).2.size,
      (emit x.1 x.2).2.push (.choice greedy (emit x.1 x.2).1 next)) := by
  have hbody := hemit x.1 x.2 (by omega) h
  refine hbody.push (Instr.forall_targets_choice hbody.entry_lt hnext) ?_
  rw [hsize]
  omega

theorem within_emitLoop {greedy : Bool} {next : Nat} {p : Program} (hle : p.size + size + 1 ≤ b)
    (h : Within b (next, p)) : Within b (emitLoop emit size greedy next p) := by
  -- the body goes on at the split that is written behind it
  have hbody := hemit (p.size + size) p (by omega) (h.enter (by omega))
  exact hbody.push (Instr.forall_targets_choice hbody.entry_lt h.entry_lt) hbody.entry_lt

end

/-- An expression leads to instructions of its own program only, and to where it goes on. -/
theorem within_emit (n : Node) {next : Nat} {p : Program} (hle : p.size + n.size ≤ b)
    (h : Within b (next, p)) : Within b (n.emit next p) := by
  induction n generalizing next p with
  | empty => exact h
  | char c => exact h.push (List.forall_mem_singleton.mpr h.entry_lt) hle
  | set s => exact h.push (List.forall_mem_singleton.mpr h.entry_lt) hle
  | look l => exact h.push (List.forall_mem_singleton.mpr h.entry_lt) hle
  | capture i name n ih =>
    rw [Node.size] at hle
    have hmark : Within b (p.size, p.push (.mark (2 * i + 1) next)) :=
      h.push (List.forall_mem_singleton.mpr h.entry_lt) (by omega)
    have hsize : (p.push (.mark (2 * i + 1) next)).size = p.size + 1 := Array.size_push _
    have hbody := ih (by omega) hmark
    refine hbody.push (List.forall_mem_singleton.mpr hbody.entry_lt) ?_
    rw [size_emit]
    omega
  | seq a c iha ihc =>
    rw [Node.size] at hle
    refine iha ?_ (ihc (by omega) h)
    rw [size_emit]
    omega
  | alt a c iha ihc =>
    rw [Node.size] at hle
    have hsecond := ihc (by omega) h
    have hsize := size_emit c next p
    have hfirst := iha (by omega) (hsecond.enter h.entry_lt)
    refine hfirst.push (List.forall_mem_cons.mpr
      ⟨hfirst.entry_lt, List.forall_mem_singleton.mpr hsecond.entry_lt⟩) ?_
    rw [size_emit]
    omega
  | repetition least most greedy n ih =>
    have hsize (x : Nat × Program) : (n.emit x.1 x.2).2.size = x.2.size + n.size :=
      size_emit n x.1 x.2
    have hcopy (x : Nat × Program) (hx : x.2.size + n.size ≤ b) (h : Within b x) :
        Within b (n.emit x.1 x.2) := ih hx h
    cases most with
    | some m =>
      simp only [Node.size] at hle
      have hoptionSize (x : Nat × Program) : ((n.emit x.1 x.2).2.push
          (.choice greedy (n.emit x.1 x.2).1 next)).size = x.2.size + (n.size + 1) := by
        rw [Array.size_push, hsize, Nat.add_assoc]
      have hoptions := within_times hoptionSize
        (fun x hx => within_option (fun _ _ => ih) (size_emit n) hx h.entry_lt) (m - least)
        (by dsimp only; omega) h
      refine within_times hsize hcopy least ?_ hoptions
      rw [times_size hoptionSize]
      dsimp only
      omega
    | none =>
      simp only [Node.size] at hle
      have hloopSize : (emitLoop n.emit n.size greedy next p).2.size = p.size + n.size + 1 := by
        rw [emitLoop, Array.size_push, size_emit]
      have hloop (hle : p.size + n.size + 1 ≤ b) :
          Within b (emitLoop n.emit n.size greedy next p) := within_emitLoop (fun _ _ => ih) hle h
      simp only [Node.emit]
      split
      next hleast =>
        rw [if_pos hleast] at hle
        split
        next hempty =>
          rw [if_pos hempty] at hle
          have hbody := hloop (by omega)
          exact hbody.push (Instr.forall_targets_choice hbody.entry_lt h.entry_lt) (by omega)
        next hempty =>
          rw [if_neg hempty] at hle
          exact (hloop (by omega)).enter (by omega)
      next hleast =>
        rw [if_neg hleast] at hle
        have hcopies : least * n.size = (least - 1) * n.size + n.size := by
          rw [← Nat.succ_mul]
          congr 1
          omega
        exact within_times hsize hcopy (least - 1) (by dsimp only; omega) (hloop (by omega))

/-- The program of an expression leads nowhere else. -/
theorem within_ofNode (n : Node) : Within (Automaton.ofNode n).program.size
    ((Automaton.ofNode n).entry, (Automaton.ofNode n).program) := by
  have haccept : Within (Automaton.ofNode n).program.size (0, #[.accept]) := by
    refine ⟨?_, fun i hi t ht => ?_⟩
    · rw [Automaton.ofNode, size_emit]
      exact Nat.lt_of_lt_of_le Nat.one_pos (Nat.le_add_right _ _)
    · obtain rfl := Array.mem_singleton.mp hi
      cases ht
  exact within_emit n (Nat.le_of_eq (size_emit n 0 #[.accept]).symm) haccept

/-! ## One more instruction -/

/-- Of the first `b` instructions the same have been tried. -/
def SameBelow (b : Nat) (tried tried' : Tried) : Prop :=
  ∀ pc pos, pc < b → ((pc, pos) ∈ tried' ↔ (pc, pos) ∈ tried)

theorem SameBelow.insert {tried tried' : Tried} (h : SameBelow b tried tried')
    (x : Nat × Nat) : SameBelow b (tried.insert x) (tried'.insert x) := by
  intro pc pos hpc
  rw [Std.HashSet.mem_insert, Std.HashSet.mem_insert, h pc pos hpc]

variable {p : Program} {text : Array Char}

/-- A run does not come to an instruction that no other leads to. -/
theorem explore_push (hp : ∀ i ∈ p, ∀ t ∈ i.targets, t < p.size) (last : Instr)
    {fuel pc pos : Nat} {marks : Marks} {tried tried' : Tried} (hpc : pc < p.size)
    (h : SameBelow p.size tried tried') :
    (explore (p.push last) text fuel pc pos marks tried').1 =
        (explore p text fuel pc pos marks tried).1 ∧
      SameBelow p.size (explore p text fuel pc pos marks tried).2
        (explore (p.push last) text fuel pc pos marks tried').2 := by
  induction fuel generalizing pc pos marks tried tried' with
  | zero => exact ⟨rfl, h⟩
  | succ fuel ih =>
    rw [explore, explore]
    by_cases hnew : (pc, pos) ∈ tried
    · have hnew' := (h pc pos hpc).mpr hnew
      rw [if_pos (Std.HashSet.mem_iff_contains.mp hnew),
        if_pos (Std.HashSet.mem_iff_contains.mp hnew')]
      exact ⟨rfl, h⟩
    have hnew' := mt (h pc pos hpc).mp hnew
    rw [if_neg (mt Std.HashSet.mem_iff_contains.mpr hnew),
      if_neg (mt Std.HashSet.mem_iff_contains.mpr hnew')]
    have hinsert := h.insert (pc, pos)
    have hsame : (p.push last)[pc]? = p[pc]? := by
      rw [Array.getElem?_push, if_neg (Nat.ne_of_lt hpc)]
    have hi : p[pc]? = some p[pc] := Array.getElem?_eq_getElem hpc
    have htargets := hp p[pc] (Array.getElem_mem hpc)
    rw [hsame, hi]
    generalize p[pc] = i at htargets
    dsimp only
    -- the new instruction is none of the targets, so that both runs stay below it
    cases i with
    | accept => exact ⟨rfl, hinsert⟩
    | char c next =>
      dsimp only
      split
      · exact ih (htargets next (List.mem_singleton_self next)) hinsert
      · exact ⟨rfl, hinsert⟩
    | set s next =>
      dsimp only
      split
      · exact ih (htargets next (List.mem_singleton_self next)) hinsert
      · exact ⟨rfl, hinsert⟩
    | look l next =>
      dsimp only
      split
      · exact ih (htargets next (List.mem_singleton_self next)) hinsert
      · exact ⟨rfl, hinsert⟩
    | mark slot next => exact ih (htargets next (List.mem_singleton_self next)) hinsert
    | split first second =>
      obtain ⟨hfirst, hsecond⟩ := List.forall_mem_cons.mp htargets
      -- a branch that fails leaves related records of what was tried
      have hbranch := @ih first pos marks _ _ hfirst hinsert
      dsimp only
      generalize explore (p.push last) text fuel first pos marks (tried'.insert (pc, pos)) = x
        at hbranch ⊢
      generalize explore p text fuel first pos marks (tried.insert (pc, pos)) = y at hbranch ⊢
      obtain ⟨found, after⟩ := x
      obtain ⟨found', after'⟩ := y
      obtain ⟨hfound, htried⟩ := hbranch
      obtain rfl : found = found' := hfound
      cases found with
      | some m => exact ⟨rfl, htried⟩
      | none => exact ih (hsecond second (List.mem_singleton_self second)) htried

/-! ## Behind the sign of the start -/

namespace Automaton

/-- An expression behind the sign of the start of a text. -/
def anchored (n : Node) : Automaton := ofNode (.seq (.look .textStart) n)

theorem program_anchored (n : Node) : (anchored n).program =
    (ofNode n).program.push (.look .textStart (ofNode n).entry) := rfl

theorem entry_anchored (n : Node) : (anchored n).entry = (ofNode n).program.size := rfl

theorem holdsAt_textStart_iff {text : Array Char} {pos : Nat} (hle : pos ≤ text.size) :
    Look.textStart.holdsAt text pos = true ↔ pos = 0 := by
  rw [Look.holdsAt, Look.holds]
  split
  next hzero => exact ⟨fun _ => hzero, fun _ => rfl⟩
  next hzero =>
    rw [Option.isNone_iff_eq_none, Array.getElem?_eq_none_iff]
    omega

/-- At the start of the text, what the expression matches is matched. -/
theorem explore_anchored_zero (n : Node) (text : Array Char) :
    (explore (anchored n).program text ((anchored n).fuel text) (anchored n).entry 0 [] ∅).1 =
      (explore (ofNode n).program text ((ofNode n).fuel text) (ofNode n).entry 0 [] ∅).1 := by
  have hwithin := within_ofNode n
  have hsame : SameBelow (ofNode n).program.size ∅
      ((∅ : Tried).insert ((ofNode n).program.size, 0)) := by
    intro pc pos hpc
    rw [Std.HashSet.mem_insert, or_iff_right]
    intro he
    have hsize : (ofNode n).program.size = pc := congrArg Prod.fst (beq_iff_eq.mp he)
    omega
  have hfuel : (anchored n).fuel text = ((ofNode n).program.size + 1) * (text.size + 1) + 1 := by
    rw [fuel, program_anchored, Array.size_push]
  -- the condition costs one step, and the longer program has fuel for more than that
  have hmore : (ofNode n).fuel text ≤ ((ofNode n).program.size + 1) * (text.size + 1) := by
    rw [fuel, Nat.succ_mul]
    omega
  rw [explore_eq_of_fuel_le (ofNode n) [] ∅ (Nat.zero_le _) hmore, hfuel, explore,
    program_anchored, entry_anchored, Array.getElem?_push_size]
  dsimp only
  rw [if_pos ((holdsAt_textStart_iff (Nat.zero_le _)).mpr rfl), Std.HashSet.contains_empty,
    if_neg Bool.false_ne_true]
  exact (explore_push hwithin.targets_lt _ hwithin.entry_lt hsame).1

/-- Further on nothing is matched. -/
theorem explore_anchored_of_pos (n : Node) {text : Array Char} {pos : Nat} (hpos : 0 < pos)
    (hle : pos ≤ text.size) (fuel : Nat) (tried : Tried) :
    (explore (anchored n).program text fuel (anchored n).entry pos [] tried).1 = none := by
  cases fuel with
  | zero => rfl
  | succ fuel =>
    have hlook : ¬ Look.textStart.holdsAt text pos = true :=
      mt (holdsAt_textStart_iff hle).mp (Nat.ne_of_gt hpos)
    rw [explore, program_anchored, entry_anchored, Array.getElem?_push_size]
    dsimp only
    rw [if_neg hlook]
    split <;> rfl

theorem findAmong_anchored_of_pos (n : Node) {text : Array Char} {count start : Nat}
    (hpos : 0 < start) (hle : start + count ≤ text.size + 1) (tried : Tried) :
    (anchored n).findAmong text count start tried = none := by
  induction count generalizing start tried with
  | zero => rfl
  | succ count ih =>
    have hstart : start ≤ text.size := by omega
    have hnone := explore_anchored_of_pos n hpos hstart ((anchored n).fuel text) tried
    rw [findAmong]
    split
    next h => rw [h] at hnone; cases hnone
    next => exact ih (by omega) (by omega) _

/-- Behind the sign of the start, what is found is what the expression finds, if that is at the
start. -/
theorem find_anchored (n : Node) (text : Array Char) :
    (anchored n).find text 0 = ((ofNode n).find text 0).filter (·.start == 0) := by
  have hzero := explore_anchored_zero n text
  unfold find
  rw [Nat.sub_zero, findAmong, findAmong]
  generalize explore (anchored n).program text ((anchored n).fuel text) (anchored n).entry 0 [] ∅
    = x at hzero ⊢
  generalize explore (ofNode n).program text ((ofNode n).fuel text) (ofNode n).entry 0 [] ∅
    = y at hzero ⊢
  obtain ⟨found, tried⟩ := x
  obtain ⟨found', tried'⟩ := y
  obtain rfl : found = found' := hzero
  cases found with
  | some m => rfl
  -- no match at the start: the anchored search finds none further on, the other one only such
  | none =>
    dsimp only
    rw [findAmong_anchored_of_pos n (by omega) (by omega)]
    symm
    rw [Option.filter_eq_none_iff]
    intro m hm
    have hlies := liesFrom_findAmong (by omega) hm
    have hfurther : m.start ≠ 0 := Nat.ne_of_gt hlies.from_le
    rw [beq_false_of_ne hfurther]
    decide

end Automaton
end Remap.Regex
