import Remap.Diff.Settle
import Remap.Diff.Shortest
/-!
# Scripts that come to the same

A script recasts another one if it leads from the same list to the same list, and brings in no empty
runs. Every change that `settle` makes to a script recasts a few runs of it that stand next to each
other, and so `settle` recasts the whole script.

Main statements: `recasts_settle`, and `full_shortest`, by which there are no empty runs to begin
with.
-/

namespace Remap.Diff

variable {α : Type}

/-! ## Empty runs -/

theorem Run.old_of_isEmpty {r : Run α} (h : r.isEmpty = true) : r.old = [] := by
  cases r with
  | keep xs => exact List.isEmpty_iff.mp h
  | delete xs => exact List.isEmpty_iff.mp h
  | insert xs => rfl

theorem Run.new_of_isEmpty {r : Run α} (h : r.isEmpty = true) : r.new = [] := by
  cases r with
  | keep xs => exact List.isEmpty_iff.mp h
  | delete xs => rfl
  | insert xs => exact List.isEmpty_iff.mp h

/-- No run of a script is empty. -/
def Full (s : Script α) : Prop := ∀ r ∈ s, r.isEmpty = false

@[simp] theorem full_nil : Full ([] : Script α) := by
  intro r hr
  cases hr

@[simp] theorem full_cons {r : Run α} {s : Script α} :
    Full (r :: s) ↔ r.isEmpty = false ∧ Full s := List.forall_mem_cons

@[simp] theorem full_append {s t : Script α} : Full (s ++ t) ↔ Full s ∧ Full t :=
  List.forall_mem_append

@[simp] theorem full_reverse {s : Script α} : Full s.reverse ↔ Full s := by
  simp [Full]

theorem full_keepAny (xs : List α) : Full (keepAny xs) := by
  cases xs <;> simp [keepAny, Run.isEmpty]

theorem full_replaceAll (old new : List α) : Full (replaceAll old new) := by
  cases old <;> cases new <;> simp [replaceAll, deleteAny, insertAny, Run.isEmpty]

theorem full_cutMiddle [DecidableEq α] {solve : List α → List α → Script α}
    (h : ∀ old new, Full (solve old new)) (old new : List α) : Full (cutMiddle solve old new) := by
  unfold cutMiddle
  split
  · exact full_nil
  next hne => simp_all [Run.isEmpty]
  next hne => simp_all [Run.isEmpty]
  · split
    · exact full_append.mpr ⟨h _ _, h _ _⟩
    · exact full_replaceAll _ _

theorem full_shortestWith [DecidableEq α] (fuel : Nat) (old new : List α) :
    Full (shortestWith fuel old new) := by
  induction fuel generalizing old new with
  | zero => exact full_replaceAll old new
  | succ fuel ih =>
    rw [shortestWith, full_append, full_append]
    exact ⟨⟨full_keepAny _, full_cutMiddle ih _ _⟩, full_keepAny _⟩

/-- A shortest script has no empty runs. -/
theorem full_shortest [DecidableEq α] (old new : List α) : Full (shortest old new) :=
  full_shortestWith _ old new

/-! ## Recasting -/

/-- The script `t` leads from the same list to the same list as `s`, and has no empty run if `s` has
none. -/
structure Recasts (s t : Script α) : Prop where
  old : oldSide t = oldSide s
  new : newSide t = newSide s
  full : Full s → Full t

namespace Recasts

variable {r s t u : Script α}

theorem refl (s : Script α) : Recasts s s := ⟨rfl, rfl, id⟩

theorem trans (h : Recasts s t) (h' : Recasts t u) : Recasts s u :=
  ⟨h'.old.trans h.old, h'.new.trans h.new, fun hs => h'.full (h.full hs)⟩

theorem append {s' t' : Script α} (h : Recasts s t) (h' : Recasts s' t') :
    Recasts (s ++ s') (t ++ t') where
  old := by rw [oldSide_append, oldSide_append, h.old, h'.old]
  new := by rw [newSide_append, newSide_append, h.new, h'.new]
  full := by
    rw [full_append, full_append]
    exact And.imp h.full h'.full

/-- A script can be recast behind other runs. -/
theorem behind (r : Script α) (h : Recasts s t) : Recasts (r ++ s) (r ++ t) := (refl r).append h

/-- A script can be recast in front of other runs. -/
theorem inFront (r : Script α) (h : Recasts s t) : Recasts (s ++ r) (t ++ r) := h.append (refl r)

/-- A change and the run before it can be recast behind the runs that come before both. -/
theorem ofBefore {run change : Run α} {after : Script α} (before : Script α)
    (h : Recasts (run :: change :: after) t) :
    Recasts ((run :: before).reverse ++ change :: after) (before.reverse ++ t) := by
  rw [List.reverse_cons, List.append_assoc]
  exact h.behind before.reverse

/-- An empty run can be left out. -/
theorem drop {r : Run α} (h : r.isEmpty = true) (s : Script α) : Recasts (r :: s) s where
  old := by rw [oldSide_cons, r.old_of_isEmpty h, List.nil_append]
  new := by rw [newSide_cons, r.new_of_isEmpty h, List.nil_append]
  full hs := (full_cons.mp hs).2

/-- Insertions next to each other are one insertion. -/
theorem joinInsert (p q : List α) (s : Script α) :
    Recasts (.insert p :: .insert q :: s) (.insert (p ++ q) :: s) where
  old := by simp [Run.old]
  new := by simp [Run.new]
  full := by simp +contextual [Run.isEmpty]

/-- Deletions next to each other are one deletion. -/
theorem joinDelete (p q : List α) (s : Script α) :
    Recasts (.delete p :: .delete q :: s) (.delete (p ++ q) :: s) where
  old := by simp [Run.old]
  new := by simp [Run.new]
  full := by simp +contextual [Run.isEmpty]

/-- Kept items next to each other are kept in one run. -/
theorem joinKeep (p q : List α) (s : Script α) :
    Recasts (.keep p :: .keep q :: s) (.keep (p ++ q) :: s) where
  old := by simp [Run.old]
  new := by simp [Run.new]
  full := by simp +contextual [Run.isEmpty]

/-- A deletion can pass an insertion. -/
theorem deleteFirst (p q : List α) (s : Script α) :
    Recasts (.insert p :: .delete q :: s) (.delete q :: .insert p :: s) where
  old := by simp [Run.old]
  new := by simp [Run.new]
  full := by simp +contextual

/-- An insertion can pass a deletion. -/
theorem insertFirst (p q : List α) (s : Script α) :
    Recasts (.delete p :: .insert q :: s) (.insert q :: .delete p :: s) where
  old := by simp [Run.old]
  new := by simp [Run.new]
  full := by simp +contextual

end Recasts

variable [DecidableEq α]

/-! ## Kept items -/

omit [DecidableEq α] in
theorem recasts_keepBefore (xs : List α) (s : Script α) :
    Recasts (.keep xs :: s) (keepBefore xs s) := by
  unfold keepBefore
  split
  next h => exact Recasts.drop (r := .keep xs) h s
  next =>
    split
    next ys rest => exact Recasts.joinKeep xs ys rest
    next => exact Recasts.refl _

omit [DecidableEq α] in
theorem recasts_keepAfter (s : Script α) (xs : List α) :
    Recasts (s.reverse ++ [.keep xs]) (keepAfter s xs).reverse := by
  unfold keepAfter
  split
  next h =>
    have hdrop := (Recasts.drop (r := .keep xs) h []).behind s.reverse
    rwa [List.append_nil] at hdrop
  next =>
    split
    next ys rest =>
      have hjoin := (Recasts.joinKeep ys xs []).behind rest.reverse
      simpa using hjoin
    next => simpa using Recasts.refl _

omit [DecidableEq α] in
theorem full_keepBefore (xs : List α) {s : Script α} (h : Full s) : Full (keepBefore xs s) := by
  by_cases hxs : xs.isEmpty = true
  · unfold keepBefore
    rw [if_pos hxs]
    exact h
  · have hrun : (Run.keep xs).isEmpty = false := Bool.eq_false_iff.mpr hxs
    exact (recasts_keepBefore xs s).full (full_cons.mpr ⟨hrun, h⟩)

omit [DecidableEq α] in
theorem full_keepAfter (xs : List α) {s : Script α} (h : Full s) : Full (keepAfter s xs) := by
  by_cases hxs : xs.isEmpty = true
  · unfold keepAfter
    rw [if_pos hxs]
    exact h
  · have hrun : (Run.keep xs).isEmpty = false := Bool.eq_false_iff.mpr hxs
    have hkept : Full (s.reverse ++ [.keep xs]) := by simp [h, hrun]
    exact full_reverse.mp ((recasts_keepAfter s xs).full hkept)

omit [DecidableEq α] in
/-- An insertion of as many items is as full. -/
theorem isEmpty_insert_of_length {p q : List α} (h : q.length = p.length)
    (hp : (Run.insert p).isEmpty = false) : (Run.insert q).isEmpty = false := by
  simp only [Run.isEmpty, List.isEmpty_eq_false_iff, ← List.length_pos_iff] at hp ⊢
  omega

/-- What an insertion does that has been moved up over kept items: the items that remain, the
insertion and the items that it passed are those from before, in the same order on either side. -/
theorem slideUp_spec (kept q passed : List α) :
    let (rest, q', passed') := slideUp kept q passed
    rest.reverse ++ passed' = kept.reverse ++ passed ∧
      rest.reverse ++ q' ++ passed' = kept.reverse ++ q ++ passed ∧ q'.length = q.length := by
  fun_induction slideUp kept q passed with
  | case1 q passed => exact ⟨rfl, rfl, rfl⟩
  | case2 q passed x kept hlast ih =>
    obtain ⟨front, rfl⟩ := List.getLast?_eq_some_iff.mp hlast
    simpa using ih
  | case3 q passed x kept hlast => exact ⟨rfl, rfl, rfl⟩

theorem slideDown_spec (passed q kept : List α) :
    let (passed', q', rest) := slideDown passed q kept
    passed'.reverse ++ rest = passed.reverse ++ kept ∧
      passed'.reverse ++ q' ++ rest = passed.reverse ++ q ++ kept ∧ q'.length = q.length := by
  fun_induction slideDown passed q kept with
  | case1 passed q => exact ⟨rfl, rfl, rfl⟩
  | case2 passed q x kept hhead ih =>
    obtain ⟨back, rfl⟩ := List.head?_eq_some_iff.mp hhead
    simpa using ih
  | case3 passed q x kept hhead => exact ⟨rfl, rfl, rfl⟩

/-! ## Moving changes -/

/-- The script of which a change is looked at. -/
def Focus.script (f : Focus α) : Script α := f.before.reverse ++ f.change :: f.after

/-- An insertion can pass the kept items above it that it ends with itself. -/
theorem recasts_slideUp {kept q rest q' passed : List α}
    (h : slideUp kept.reverse q [] = (rest, q', passed)) (after : Script α) :
    Recasts (.keep kept :: .insert q :: after)
      (keepAny rest.reverse ++ .insert q' :: keepBefore passed after) := by
  have hspec := slideUp_spec kept.reverse q []
  simp only [h, List.reverse_reverse, List.append_nil] at hspec
  -- `q'` is `q` turned round by what it slid past, and what it slid past is kept below it
  obtain ⟨hold, hnew, hlength⟩ := hspec
  have hbelow := recasts_keepBefore passed after
  constructor
  · rw [oldSide_append, oldSide_cons, hbelow.old, oldSide_keepAny]
    simp [Run.old, ← hold]
  · rw [newSide_append, newSide_cons, hbelow.new, newSide_keepAny]
    simp [Run.new, ← List.append_assoc, hnew]
  · intro hfull
    obtain ⟨-, hq, hafter⟩ := by simpa only [full_cons] using hfull
    have hbelow : Full (keepBefore passed after) := full_keepBefore passed hafter
    rw [full_append, full_cons]
    exact ⟨full_keepAny _, isEmpty_insert_of_length hlength hq, hbelow⟩

/-- An insertion can pass the kept items below it that it begins with itself. -/
theorem recasts_slideDown {kept q rest q' passed : List α}
    (h : slideDown [] q kept = (passed, q', rest)) (before : Script α) :
    Recasts (before.reverse ++ .insert q :: [.keep kept])
      ((keepAfter before passed.reverse).reverse ++ .insert q' :: keepAny rest) := by
  have hspec := slideDown_spec [] q kept
  simp only [h, List.reverse_nil, List.nil_append] at hspec
  obtain ⟨hold, hnew, hlength⟩ := hspec
  have habove := recasts_keepAfter before passed.reverse
  constructor
  · rw [oldSide_append, oldSide_cons, habove.old, oldSide_keepAny]
    simp [Run.old, ← hold]
  · rw [newSide_append, newSide_cons, habove.new, newSide_keepAny]
    simp [Run.new, ← hnew]
  · intro hfull
    obtain ⟨hbefore, hq, -⟩ := by simpa only [full_append, full_cons, full_reverse] using hfull
    have habove : Full (keepAfter before passed.reverse) := full_keepAfter passed.reverse hbefore
    rw [full_append, full_cons, full_reverse]
    exact ⟨habove, isEmpty_insert_of_length hlength hq, full_keepAny _⟩

theorem recasts_moveUp (before : Script α) (change : Run α) (after : Script α) :
    Recasts (before.reverse ++ change :: after) (moveUp before change after).script := by
  fun_induction moveUp before change after with
  | case1 change after => exact Recasts.refl _
  -- all of the kept run was slid past, so that what stands above it may be passed too
  | case2 before after₀ kept q rest q' passed hslide after hrest ih =>
    obtain rfl := List.isEmpty_iff.mp hrest
    exact (Recasts.ofBefore before (recasts_slideUp hslide after₀)).trans ih
  | case3 before after₀ kept q rest q' passed hslide after hrest =>
    have hkeep : keepAny rest.reverse = [.keep rest.reverse] := by
      rw [keepAny, if_neg (by simpa using hrest)]
    have hslid := Recasts.ofBefore before (recasts_slideUp hslide after₀)
    rw [hkeep] at hslid
    simpa [Focus.script] using hslid
  -- each further step joins two runs or lets them change places
  | case4 before after p q ih => exact (Recasts.ofBefore before (.joinInsert p q after)).trans ih
  | case5 before after p q ih => exact (Recasts.ofBefore before (.joinDelete p q after)).trans ih
  | case6 before after p q ih => exact (Recasts.ofBefore before (.deleteFirst p q after)).trans ih
  | case7 before after p q ih => exact (Recasts.ofBefore before (.insertFirst p q after)).trans ih
  | case8 before after run change _ _ _ _ _ hempty ih =>
    exact (Recasts.ofBefore before (.drop hempty (change :: after))).trans ih
  | case9 before after run change => exact Recasts.refl _

theorem recasts_moveDown (before : Script α) (change : Run α) (after : Script α) :
    Recasts (before.reverse ++ change :: after) (moveDown before change after).script := by
  fun_induction moveDown before change after with
  | case1 before change => exact Recasts.refl _
  | case2 before₀ after q kept passed q' rest hslide before hrest ih =>
    obtain rfl := List.isEmpty_iff.mp hrest
    refine Recasts.trans ?_ ih
    simpa [keepAny] using (recasts_slideDown hslide before₀).inFront after
  | case3 before₀ after q kept passed q' rest hslide before hrest =>
    have hkeep : keepAny rest = [.keep rest] := by rw [keepAny, if_neg hrest]
    have hslid := (recasts_slideDown hslide before₀).inFront after
    rw [hkeep] at hslid
    simpa [Focus.script] using hslid
  -- `before` is kept the other way round, and each further step is taken behind it
  | case4 before after p q ih =>
    exact ((Recasts.joinInsert p q after).behind before.reverse).trans ih
  | case5 before after p q ih =>
    exact ((Recasts.joinDelete p q after).behind before.reverse).trans ih
  | case6 before after p q ih =>
    refine ((Recasts.deleteFirst p q after).behind before.reverse).trans ?_
    simpa using ih
  | case7 before after p q ih =>
    refine ((Recasts.insertFirst p q after).behind before.reverse).trans ?_
    simpa using ih
  | case8 before after change run _ _ _ _ _ hempty ih =>
    refine Recasts.trans ?_ ih
    exact ((Recasts.drop hempty after).behind [change]).behind before.reverse
  | case9 before after change run => exact Recasts.refl _

/-- Moving the changes of one kind recasts a script. -/
theorem recasts_settleKind (kind : Run α → Bool) (fuel : Nat) (done rest : Script α) :
    Recasts (done.reverse ++ rest) (settleKind kind fuel done rest) := by
  fun_induction settleKind kind fuel done rest with
  | case1 done rest => exact Recasts.refl _
  | case2 fuel done =>
    rw [List.append_nil]
    exact Recasts.refl _
  | case3 fuel done run rest hkind up f ih =>
    have hup : Recasts (done.reverse ++ run :: rest) up.script := recasts_moveUp done run rest
    have hdown : Recasts up.script f.script := recasts_moveDown up.before up.change up.after
    refine (hup.trans hdown).trans ?_
    simpa [Focus.script] using ih
  | case4 fuel done run rest hkind ih =>
    simpa using ih

/-- A script that was settled comes to the same. -/
theorem recasts_settle (s : Script α) : Recasts s (settle s) :=
  (recasts_settleKind Run.isDelete _ [] s).trans (recasts_settleKind Run.isInsert _ [] _)

end Remap.Diff
