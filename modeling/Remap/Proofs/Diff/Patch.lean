import Remap.Diff.Hunk
import Remap.Proofs.Diff.Recast
import Remap.Proofs.Text.Search
/-!
# Hunks as a patch

Hunks lead from one list to another: what stands between them is the same in both lists, and a hunk
itself says what is in either of them. No hunk keeps many items in a row, and none is without a
change, so that there are no hunks between equal lists.

Main statements: `patch_hunks` and `hunks_eq_nil_iff`.
-/

namespace Remap.Diff

variable {α : Type}

/-! ## Hunks -/

namespace Hunk

/-- The items that the old list has: those that are kept or deleted. -/
def old (h : Hunk α) : List α := (h.filter fun x => x.1 ≠ .insert).map Prod.snd

/-- The items that the new list has: those that are kept or inserted. -/
def new (h : Hunk α) : List α := (h.filter fun x => x.1 ≠ .delete).map Prod.snd

/-- All items are kept. -/
def Kept (h : Hunk α) : Prop := ∀ x ∈ h, x.1 = .keep

/-- A hunk has a change, at most `n` kept items before the first change and after the last one, and
at most twice as many between two changes. -/
structure Tidy (n : Nat) (h : Hunk α) : Prop where
  changes : ∃ x ∈ h, x.1 ≠ .keep
  before : ∀ ks, ks <+: h → Kept ks → ks.length ≤ n
  after : ∀ ks, ks <:+ h → Kept ks → ks.length ≤ n
  between : ∀ ks, ks <:+: h → Kept ks → ks.length ≤ 2 * n

@[simp] theorem old_append (h k : Hunk α) : old (h ++ k) = old h ++ old k := by simp [old]

@[simp] theorem new_append (h k : Hunk α) : new (h ++ k) = new h ++ new k := by simp [new]

@[simp] theorem old_tagged (t : Tag) (xs : List α) :
    old (tagged t xs) = if t = .insert then [] else xs := by
  induction xs with
  | nil => simp [old, tagged]
  | cons x xs ih => cases t <;> simp_all [old, tagged]

@[simp] theorem new_tagged (t : Tag) (xs : List α) :
    new (tagged t xs) = if t = .delete then [] else xs := by
  induction xs with
  | nil => simp [new, tagged]
  | cons x xs ih => cases t <;> simp_all [new, tagged]

@[simp] theorem length_tagged (t : Tag) (xs : List α) : (tagged t xs).length = xs.length := by
  simp [tagged]

/-! ### Hunks that go on -/

/-- A hunk that can go on: not many items are kept in a row, so far. -/
structure Open (n : Nat) (h : Hunk α) : Prop where
  before : ∀ ks, ks <+: h → Kept ks → ks.length ≤ n
  between : ∀ ks, ks <:+: h → Kept ks → ks.length ≤ 2 * n

/-- The last item is not kept. -/
def EndsInChange (h : Hunk α) : Prop := ∃ front x, h = front ++ [x] ∧ x.1 ≠ .keep

variable {n : Nat} {h ks : Hunk α} {x : Tag × α}

theorem Kept.not_mem (hk : Kept ks) (hx : x.1 ≠ .keep) : x ∉ ks := fun hm => hx (hk x hm)

theorem open_keep (xs : List α) (hxs : xs.length ≤ n) : Open n (tagged .keep xs) where
  before ks hks _ := by
    have := hks.length_le
    simp only [length_tagged] at this
    omega
  between ks hks _ := by
    have := hks.length_le
    simp only [length_tagged] at this
    omega

namespace Open

theorem concat (ho : Open n h) (hx : x.1 ≠ .keep) : Open n (h ++ [x]) where
  before ks hks hkept :=
    ho.before ks (Text.prefix_of_prefix_append_cons (hkept.not_mem hx) hks) hkept
  between ks hks hkept := by
    rcases Text.infix_append_cons (hkept.not_mem hx) hks with hin | hin
    · exact ho.between ks hin hkept
    · rw [List.infix_nil.mp hin]
      exact Nat.zero_le _

theorem append (ho : Open n h) {cs : Hunk α} (hcs : ∀ x ∈ cs, x.1 ≠ .keep) : Open n (h ++ cs) := by
  induction cs generalizing h with
  | nil => rwa [List.append_nil]
  | cons x cs ih =>
    have hstep := ih (ho.concat (hcs x List.mem_cons_self))
      fun y hy => hcs y (List.mem_cons_of_mem x hy)
    rwa [List.append_assoc] at hstep

/-- A hunk goes on with a change. -/
theorem change (ho : Open n h) (ds is : List α) :
    Open n (h ++ tagged .delete ds ++ tagged .insert is) := by
  apply (ho.append _).append
  · simp [tagged]
  · simp [tagged]

/-- A hunk goes on with kept items, if they are few. -/
theorem keep (ho : Open n h) (he : EndsInChange h) (xs : List α) (hxs : xs.length ≤ 2 * n) :
    Open n (h ++ tagged .keep xs) := by
  obtain ⟨front, x, rfl, hx⟩ := he
  constructor
  · intro ks hks hkept
    rw [List.append_assoc, List.singleton_append] at hks
    have hfront := Text.prefix_of_prefix_append_cons (hkept.not_mem hx) hks
    exact ho.before ks (hfront.trans (List.prefix_append front [x])) hkept
  · intro ks hks hkept
    rw [List.append_assoc, List.singleton_append] at hks
    rcases Text.infix_append_cons (hkept.not_mem hx) hks with hin | hin
    · exact ho.between ks (hin.trans (List.prefix_append front [x]).isInfix) hkept
    · have := hin.length_le
      simp only [length_tagged] at this
      omega

/-- A hunk ends with kept items behind its last change, if they are few enough. -/
theorem close (ho : Open n h) (he : EndsInChange h) (xs : List α) (hxs : xs.length ≤ n) :
    Tidy n (h ++ tagged .keep xs) := by
  have hopen := ho.keep he xs (by omega)
  obtain ⟨front, x, rfl, hx⟩ := he
  refine ⟨⟨x, by simp, hx⟩, hopen.before, ?_, hopen.between⟩
  intro ks hks hkept
  rw [List.append_assoc, List.singleton_append] at hks
  have hend := (Text.suffix_of_suffix_append_cons (hkept.not_mem hx) hks).length_le
  rw [length_tagged] at hend
  exact Nat.le_trans hend hxs

end Open

theorem endsInChange_change (h : Hunk α) {ds is : List α} (hne : ds ≠ [] ∨ is ≠ []) :
    EndsInChange (h ++ tagged .delete ds ++ tagged .insert is) := by
  rcases List.eq_nil_or_concat is with rfl | ⟨is, i, rfl⟩
  · obtain ⟨ds, d, rfl⟩ := (List.eq_nil_or_concat ds).resolve_left (by simpa using hne)
    exact ⟨h ++ tagged .delete ds, (.delete, d), by simp [tagged], by simp⟩
  · exact ⟨h ++ tagged .delete ds ++ tagged .insert is, (.insert, i), by simp [tagged], by simp⟩

end Hunk

/-! ## Blocks -/

namespace Block

/-- The items of the old list in a block. -/
@[simp] def old : Block α → List α
  | same xs => xs
  | change ds _ => ds

/-- The items of the new list in a block. -/
@[simp] def new : Block α → List α
  | same xs => xs
  | change _ is => is

end Block

theorem flatMap_old_attach (r : Run α) (bs : List (Block α)) :
    (r.attach bs).flatMap Block.old = r.old ++ bs.flatMap Block.old := by
  unfold Run.attach
  split <;> simp [Run.old]

theorem flatMap_new_attach (r : Run α) (bs : List (Block α)) :
    (r.attach bs).flatMap Block.new = r.new ++ bs.flatMap Block.new := by
  unfold Run.attach
  split <;> simp [Run.new]

theorem flatMap_old_blocks (s : Script α) : (blocks s).flatMap Block.old = oldSide s := by
  induction s with
  | nil => rfl
  | cons r s ih => rw [blocks, flatMap_old_attach, ih, oldSide_cons]

theorem flatMap_new_blocks (s : Script α) : (blocks s).flatMap Block.new = newSide s := by
  induction s with
  | nil => rfl
  | cons r s ih => rw [blocks, flatMap_new_attach, ih, newSide_cons]

/-- Between kept items and the next ones there is a change, and every change changes something. -/
inductive Regular : List (Block α) → Prop
  | nil : Regular []
  | same (xs : List α) : Regular [.same xs]
  | between (xs : List α) {ds is : List α} {bs : List (Block α)} :
      Regular (.change ds is :: bs) → Regular (.same xs :: .change ds is :: bs)
  | change {ds is : List α} {bs : List (Block α)} :
      ds ≠ [] ∨ is ≠ [] → Regular bs → Regular (.change ds is :: bs)

theorem regular_attach {r : Run α} {bs : List (Block α)} (hr : r.isEmpty = false)
    (h : Regular bs) : Regular (r.attach bs) := by
  cases r with
  -- runs of one kind are joined, so two blocks of the same kind never come to stand together
  | keep xs =>
    cases h with
    | nil => exact .same xs
    | same ys => exact .same (xs ++ ys)
    | between ys h => exact .between (xs ++ ys) h
    | change hne h => exact .between xs (.change hne h)
  | delete xs =>
    have hxs : xs ≠ [] := by simpa [Run.isEmpty] using hr
    cases h with
    | change hne h => exact .change (.inl (by simp [hxs])) h
    | nil => exact .change (.inl hxs) .nil
    | same ys => exact .change (.inl hxs) (.same ys)
    | between ys h => exact .change (.inl hxs) (.between ys h)
  | insert xs =>
    have hxs : xs ≠ [] := by simpa [Run.isEmpty] using hr
    cases h with
    | change hne h => exact .change (.inr (by simp [hxs])) h
    | nil => exact .change (.inr hxs) .nil
    | same ys => exact .change (.inr hxs) (.same ys)
    | between ys h => exact .change (.inr hxs) (.between ys h)

theorem regular_blocks {s : Script α} (h : Full s) : Regular (blocks s) := by
  induction s with
  | nil => exact .nil
  | cons r s ih =>
    obtain ⟨hr, hs⟩ := full_cons.mp h
    exact regular_attach hr (ih hs)

/-! ## Patches -/

/-- The hunks of some parts lead from the old list to the new one. Both lists begin with `gap`, and
behind each hunk they go on with the items that stand with it; there are some if a hunk follows. -/
structure Patch (n : Nat) (old new gap : List α) (parts : List (Hunk α × List α)) : Prop where
  old : old = gap ++ parts.flatMap fun p => Hunk.old p.1 ++ p.2
  new : new = gap ++ parts.flatMap fun p => Hunk.new p.1 ++ p.2
  tidy : ∀ p ∈ parts, Hunk.Tidy n p.1
  apart : ∀ p ∈ parts.dropLast, p.2 ≠ []

variable {n : Nat}

/-- A list with many items between its first `n` and its last `n`. -/
theorem take_append_lastItems {xs : List α} (h : 2 * n < xs.length) :
    ∃ mid, mid ≠ [] ∧ xs = xs.take n ++ (mid ++ lastItems n xs) := by
  refine ⟨(xs.drop n).take (xs.length - 2 * n), ?_, ?_⟩
  · rw [← List.length_pos_iff, List.length_take, List.length_drop]
    omega
  · have hlast : lastItems n xs = (xs.drop n).drop (xs.length - 2 * n) := by
      rw [lastItems, List.drop_drop]
      congr 1
      omega
    rw [hlast, List.take_append_drop, List.take_append_drop]

theorem length_lastItems_le (n : Nat) (xs : List α) : (lastItems n xs).length ≤ n := by
  rw [lastItems, List.length_drop]
  omega

/-- One more hunk in front of others. -/
theorem Patch.cons {old new mid : List α} {h : Hunk α} {parts : List (Hunk α × List α)}
    (hp : Patch n old new [] parts) (hne : parts ≠ []) (ht : h.Tidy n) (hmid : mid ≠ []) :
    Patch n (Hunk.old h ++ (mid ++ old)) (Hunk.new h ++ (mid ++ new)) [] ((h, mid) :: parts) where
  old := by simp [hp.old]
  new := by simp [hp.new]
  tidy := by
    intro p hm
    rcases List.mem_cons.mp hm with rfl | hm
    · exact ht
    · exact hp.tidy p hm
  apart := by
    rw [List.dropLast_cons_of_ne_nil hne]
    intro p hm
    rcases List.mem_cons.mp hm with rfl | hm
    · exact hmid
    · exact hp.apart p hm

/-- A last hunk. -/
theorem Patch.single {h : Hunk α} (ht : Hunk.Tidy n h) (rest : List α) :
    Patch n (Hunk.old h ++ rest) (Hunk.new h ++ rest) [] [(h, rest)] where
  old := by simp
  new := by simp
  tidy := by
    intro p hm
    obtain rfl := List.mem_singleton.mp hm
    exact ht
  apart := by simp

/-- The hunks after a change. The hunk so far ends in that change, or has only what comes before
it. -/
theorem patch_hunksAfter {current : Hunk α} {bs : List (Block α)} (hreg : Regular bs)
    (ho : Hunk.Open n current)
    (hc : Hunk.EndsInChange current ∨ ∃ ds is rest, bs = .change ds is :: rest) :
    ∃ parts, parts ≠ [] ∧ parts.map Prod.fst = hunksAfter n current bs ∧
      Patch n (Hunk.old current ++ bs.flatMap Block.old)
        (Hunk.new current ++ bs.flatMap Block.new) [] parts := by
  fun_induction hunksAfter n current bs with
  | case1 current =>
    have he := hc.resolve_right (by simp)
    have htidy := ho.close he [] (Nat.zero_le n)
    rw [tagged, List.map_nil, List.append_nil] at htidy
    exact ⟨[(current, [])], by simp, rfl, Patch.single htidy []⟩
  | case2 current xs =>
    have he := hc.resolve_right (by simp)
    have htidy := ho.close he (xs.take n) (List.length_take_le n xs)
    refine ⟨[(current ++ tagged .keep (xs.take n), xs.drop n)], by simp, rfl, ?_⟩
    simpa using Patch.single htidy (xs.drop n)
  | case3 current xs bs hbs hlong ih =>
    have he := hc.resolve_right (by simp)
    have htidy := ho.close he (xs.take n) (List.length_take_le n xs)
    obtain ⟨mid, hmid, hxs⟩ := take_append_lastItems hlong
    cases hreg with
    | same => exact absurd rfl hbs
    | between _ hreg =>
      -- the next hunk begins with the last kept items, and the change is behind them
      obtain ⟨parts, hne, hmap, hpatch⟩ := ih hreg (Hunk.open_keep _ (length_lastItems_le n xs))
        (.inr ⟨_, _, _, rfl⟩)
      refine ⟨(current ++ tagged .keep (xs.take n), mid) :: parts, by simp, by simp [hmap], ?_⟩
      have hcons := hpatch.cons hne htidy hmid
      rw [congrArg Block.same hxs]
      simpa using hcons
  | case4 current xs bs hbs hshort ih =>
    have he := hc.resolve_right (by simp)
    cases hreg with
    | same => exact absurd rfl hbs
    | between _ hreg =>
      obtain ⟨parts, hne, hmap, hpatch⟩ := ih hreg (ho.keep he xs (Nat.le_of_not_lt hshort))
        (.inr ⟨_, _, _, rfl⟩)
      refine ⟨parts, hne, hmap, ?_⟩
      simpa using hpatch
  | case5 current ds is bs ih =>
    cases hreg with
    | change hne hreg =>
      obtain ⟨parts, hparts, hmap, hpatch⟩ := ih hreg (ho.change ds is)
        (.inl (Hunk.endsInChange_change current hne))
      refine ⟨parts, hparts, hmap, ?_⟩
      simpa using hpatch

/-- What both lists begin with can stand in front of a patch. -/
theorem Patch.behind {old new : List α} {parts : List (Hunk α × List α)}
    (h : Patch n old new [] parts) (gap : List α) : Patch n (gap ++ old) (gap ++ new) gap parts where
  old := by simp [h.old]
  new := by simp [h.new]
  tidy := h.tidy
  apart := h.apart

theorem patch_hunksOf {bs : List (Block α)} (hreg : Regular bs) :
    ∃ gap parts, parts.map Prod.fst = hunksOf n bs ∧
      Patch n (bs.flatMap Block.old) (bs.flatMap Block.new) gap parts := by
  cases hreg with
  | nil => exact ⟨[], [], rfl, ⟨rfl, rfl, by simp, by simp⟩⟩
  | same xs =>
    refine ⟨xs, [], rfl, ⟨?_, ?_, by simp, by simp⟩⟩
    · simp
    · simp
  -- the lines before the context of the first hunk are the gap, which the hunks start behind
  | between xs hreg =>
    obtain ⟨parts, -, hmap, hpatch⟩ := patch_hunksAfter hreg
      (Hunk.open_keep _ (length_lastItems_le n xs)) (.inr ⟨_, _, _, rfl⟩)
    refine ⟨xs.take (xs.length - n), parts, hmap, ?_⟩
    have hbehind := hpatch.behind (xs.take (xs.length - n))
    simpa [lastItems, ← List.append_assoc] using hbehind
  | change hne hreg =>
    obtain ⟨parts, -, hmap, hpatch⟩ := patch_hunksAfter (.change hne hreg)
      (Hunk.open_keep [] (Nat.zero_le n)) (.inr ⟨_, _, _, rfl⟩)
    exact ⟨[], parts, hmap, hpatch⟩

/-! ## Hunks between two lists -/

variable [DecidableEq α]

/-- The hunks between two lists lead from the one to the other. -/
theorem patch_hunks (n : Nat) (old new : List α) :
    ∃ gap parts, parts.map Prod.fst = hunks n old new ∧ Patch n old new gap parts := by
  have hrecast := recasts_settle (shortest old new)
  have hold : (blocks (settle (shortest old new))).flatMap Block.old = old := by
    rw [flatMap_old_blocks, hrecast.old, oldSide_shortest]
  have hnew : (blocks (settle (shortest old new))).flatMap Block.new = new := by
    rw [flatMap_new_blocks, hrecast.new, newSide_shortest]
  have hpatch := patch_hunksOf (n := n) (regular_blocks (hrecast.full (full_shortest old new)))
  rwa [hold, hnew] at hpatch

/-- What is in a hunk is in one of the lists. -/
theorem mem_of_mem_hunks {old new : List α} {h : Hunk α} {tag : Tag} {x : α}
    (hh : h ∈ hunks n old new) (hx : (tag, x) ∈ h) : x ∈ old ∨ x ∈ new := by
  obtain ⟨gap, parts, hmap, hpatch⟩ := patch_hunks n old new
  rw [← hmap] at hh
  obtain ⟨p, hp, rfl⟩ := List.mem_map.mp hh
  by_cases htag : tag = .insert
  · have hnew : x ∈ Hunk.new p.1 :=
      List.mem_map.mpr ⟨(tag, x), List.mem_filter.mpr ⟨hx, by simp [htag]⟩, rfl⟩
    rw [hpatch.new]
    exact .inr (List.mem_append_right gap
      (List.mem_flatMap.mpr ⟨p, hp, List.mem_append_left p.2 hnew⟩))
  · have hold : x ∈ Hunk.old p.1 :=
      List.mem_map.mpr ⟨(tag, x), List.mem_filter.mpr ⟨hx, by simp [htag]⟩, rfl⟩
    rw [hpatch.old]
    exact .inl (List.mem_append_right gap
      (List.mem_flatMap.mpr ⟨p, hp, List.mem_append_left p.2 hold⟩))

/-! ### No hunks -/

theorem commonStart_self (xs : List α) : commonStart xs xs = (xs, [], []) := by
  induction xs with
  | nil => rfl
  | cons x xs ih => simp [commonStart, ih]

theorem shortest_self (xs : List α) : shortest xs xs = keepAny xs := by
  simp [shortest, shortestWith, commonStart_self, commonEnd, cutMiddle, keepAny]

/-- A script without changes of a kind has nothing to be moved. -/
theorem settleKind_of_forall {kind : Run α → Bool} {rest : Script α}
    (h : ∀ r ∈ rest, kind r = false) (fuel : Nat) (done : Script α) :
    settleKind kind fuel done rest = done.reverse ++ rest := by
  induction rest generalizing fuel done with
  | nil => cases fuel <;> simp [settleKind]
  | cons r rest ih =>
    cases fuel with
    | zero => rw [settleKind]
    | succ fuel =>
      have hr := h r List.mem_cons_self
      rw [settleKind, hr, if_neg Bool.false_ne_true,
        ih (fun x hx => h x (List.mem_cons_of_mem r hx)), List.reverse_cons, List.append_assoc]
      rfl

theorem settle_keepAny (xs : List α) : settle (keepAny xs) = keepAny xs := by
  have hd : ∀ r ∈ keepAny xs, r.isDelete = false := by cases xs <;> simp [keepAny, Run.isDelete]
  have hi : ∀ r ∈ keepAny xs, r.isInsert = false := by cases xs <;> simp [keepAny, Run.isInsert]
  rw [settle, settleKind_of_forall hd, List.reverse_nil, List.nil_append, settleKind_of_forall hi,
    List.reverse_nil, List.nil_append]

/-- There are no hunks between two lists exactly if they are equal. -/
theorem hunks_eq_nil_iff {old new : List α} : hunks n old new = [] ↔ old = new := by
  constructor
  · intro h
    obtain ⟨gap, parts, hmap, hpatch⟩ := patch_hunks n old new
    rw [h, List.map_eq_nil_iff] at hmap
    subst hmap
    rw [hpatch.old, hpatch.new]
    rfl
  · rintro rfl
    rw [hunks, shortest_self, settle_keepAny]
    cases old <;> rfl

end Remap.Diff
