import Mathlib.Data.List.TakeWhile
import Remap.Proofs.Files.Saving
import Remap.Proofs.Files.Strides
/-!
# Where a path leads without links

Without links an absolute path leads to a place that can be read off its steps: each name goes one
step down, and each two dots go one step up. An absolute path that ends with its last step is
reached from the top by adding one part after the other, so that what holds of the top and is kept
by every part holds of it: `Rooted.ind`.
-/

namespace Remap

variable {p q : Path} {gap : List (List Char)} {last : List Char}

/-- The location to which a part leads from another one, if it is no link. -/
def Location.behind (place : Location) (part : List Char) : Location :=
  if part = ['.', '.'] then place.tail else part :: place

namespace Path

/-- The location to which an absolute path leads, if there are no links. -/
def place (p : Path) : Location := p.strides.foldl Location.behind []

/-- A path and the names in it are short enough to be looked up. -/
structure Fits (p : Path) : Prop where
  noNul : '\x00' ∉ p.text
  short : byteCount p.text ≤ maxPathBytes
  names : ∀ part ∈ p.strides, byteCount part ≤ maxNameBytes

/-- A path ends with its last step: no slash and no dot comes behind it. -/
def Tidy (p : Path) : Prop := ∀ part ∈ p.trail.getLast?, ¬ idle part = true

instance (p : Path) : Decidable p.Tidy :=
  inferInstanceAs (Decidable (∀ part ∈ p.trail.getLast?, ¬ idle part = true))

/-- An absolute path that ends with its last step. -/
structure Rooted (p : Path) : Prop where
  absolute : p.isAbsolute = true
  tidy : p.Tidy

/-- The path `p` goes on behind its parent `q` with one part, and there may be dots between them. -/
structure Extends (q p : Path) (gap : List (List Char)) (last : List Char) : Prop where
  parent : p.parent? = some q
  names : p.names = q.names ++ (gap ++ [last])
  gap : ∀ part ∈ gap, idle part = true
  last : ¬ idle last = true

/-! ## Parents of absolute paths -/

theorem isAbsolute_cut (h : p.isAbsolute = true) :
    p.cut.1 = some .top ∧ p.names = p.cut.2.filter (· ≠ []) := by
  obtain ⟨text⟩ := p
  obtain ⟨rest, rfl⟩ := List.head?_eq_some_iff.mp (by simpa [isAbsolute] using h)
  exact ⟨rfl, names_slash_cons rest⟩

theorem names_ofParts {ps : List (List Char)} (hs : ∀ x ∈ ps, ∀ c ∈ x, (c == '/') = false) :
    names ⟨ofParts ps⟩ = ps.filter (· ≠ []) := by
  by_cases hne : ps = []
  · subst hne
    rfl
  · rw [names, parts, ofParts, Text.splitAt_join hne hs]

theorem getLast?_ofParts_concat (ps : List (List Char)) {part : List Char} (h : part ≠ []) :
    (ofParts (ps ++ [part])).getLast? = part.getLast? := by
  have hpart : ofParts [part] = part := rfl
  by_cases hps : ps = []
  · subst hps
    rw [List.nil_append, hpart]
  · rw [ofParts, Text.join_append hps (by simp), List.getLast?_append]
    obtain ⟨c, hc⟩ := Option.ne_none_iff_exists'.mp fun hn => h (List.getLast?_eq_none_iff.mp hn)
    simp only [ofParts] at hpart
    rw [hpart, List.getLast?_append, hc]
    rfl

/-- The text of an absolute path whose last part is not idle. -/
theorem rooted_of_text {front : List (List Char)} (ht : p.text = '/' :: ofParts front)
    (hs : ∀ x ∈ front, ∀ c ∈ x, (c == '/') = false) (hl : ∀ x ∈ front.getLast?, ¬ idle x = true) :
    p.Rooted ∧ p.names = front.filter (· ≠ []) := by
  have hnames : p.names = front.filter (· ≠ []) := by
    obtain ⟨text⟩ := p
    obtain rfl : text = '/' :: ofParts front := ht
    rw [names_slash_cons, names_ofParts hs]
  refine ⟨⟨by rw [isAbsolute, ht]; rfl, ?_⟩, hnames⟩
  rcases List.eq_nil_or_concat front with rfl | ⟨xs, x, rfl⟩
  · have htrail : p.trail = [] := by rw [trail, if_neg (by simp [hnames]), hnames]; rfl
    simp [Tidy, htrail]
  · rw [List.concat_eq_append] at ht hs hl hnames
    have hx := hl x (by simp)
    have hne : x ≠ [] := by
      rintro rfl
      exact hx rfl
    obtain ⟨c, hc⟩ := Option.ne_none_iff_exists'.mp fun hn => hne (List.getLast?_eq_none_iff.mp hn)
    have hend : p.text.getLast? = some c := by
      rw [ht, ← List.singleton_append, List.getLast?_append, getLast?_ofParts_concat xs hne, hc]
      rfl
    -- no slash at the end, so that nothing is walked along behind the names
    have hslash : p.text.getLast? ≠ some '/' := by
      have hcs := hs x (by simp) c (List.mem_of_getLast? hc)
      simpa [hend] using hcs
    rw [Tidy, trail, if_neg fun h => hslash h.1, hnames]
    simpa [hne] using hx

/-- The parent of an absolute path is absolute, and its names come first. Behind them comes one
part among idle ones. -/
theorem rooted_parent? (ha : p.isAbsolute = true) (h : p.parent? = some q) :
    q.Rooted ∧ ∃ gap last back, p.names = q.names ++ (gap ++ last :: back) ∧
      (∀ x ∈ gap, idle x = true) ∧ ¬ idle last = true ∧ (∀ x ∈ back, idle x = true) := by
  obtain ⟨htop, hnames⟩ := isAbsolute_cut ha
  rcases cut_of_parent? h with ⟨front, gap, last, back, hc, hf, hg, hl, hb, ht⟩ | ⟨-, hs⟩
  · rw [htop] at ht
    have hfront : ∀ x ∈ front, ∀ c ∈ x, (c == '/') = false := fun x hx =>
      forall_ne_slash_cut p x (hc ▸ List.mem_append_left _ hx)
    obtain ⟨hrooted, hq⟩ := rooted_of_text ht hfront hf
    have hlast : last ≠ [] := by
      rintro rfl
      exact hl rfl
    -- the same split among the names, of which empty parts are none
    refine ⟨hrooted, gap.filter (· ≠ []), last, back.filter (· ≠ []), ?_,
      fun x hx => hg x (List.mem_filter.mp hx).1, hl, fun x hx => hb x (List.mem_filter.mp hx).1⟩
    rw [hnames, hc, hq]
    simp only [List.filter_append, List.filter_cons, hlast, ne_eq, not_false_eq_true, decide_true,
      if_true]
  · -- a path that is a dot is not absolute
    rw [isAbsolute_iff_head?_steps, hs] at ha
    cases ha

/-- Without a slash at its end a path has only its names to walk along. -/
theorem Tidy.trail_eq (h : p.Tidy) : p.trail = p.names := by
  by_cases hs : p.text.getLast? = some '/' ∧ p.names ≠ []
  · have htrail : p.trail = p.names ++ [[]] := by rw [trail, if_pos hs]
    exact absurd rfl (h [] (by simp [htrail]))
  · rw [trail, if_neg hs]

theorem Tidy.names (h : p.Tidy) : ∀ part ∈ p.names.getLast?, ¬ idle part = true := by
  rw [← h.trail_eq]
  exact h

theorem Rooted.ne_nil (h : p.Rooted) : p.text ≠ [] := by
  intro ht
  have := h.absolute
  simp [isAbsolute, ht] at this

theorem rooted_of_above (ha : p.isAbsolute = true) (h : q.Above p) : q.Rooted := by
  induction h with
  | parent hp => exact (rooted_parent? ha hp).1
  | up hr _ ih => exact ih (rooted_parent? ha hr).1.absolute

/-- Only idle parts are in an absolute path that has no parent. -/
theorem idle_of_parent?_eq_none (ha : p.isAbsolute = true) (h : p.parent? = none) :
    ∀ x ∈ p.names, idle x = true := by
  obtain ⟨htop, hnames⟩ := isAbsolute_cut ha
  unfold parent? at h
  split at h
  · cases h
  next hf =>
    intro x hx
    rw [hnames] at hx
    exact List.dropWhile_eq_nil_iff.mp hf x (List.mem_reverse.mpr (List.mem_filter.mp hx).1)

/-- A path that ends with its last step goes on behind its parent with that step. -/
theorem Rooted.extends (h : p.Rooted) (hp : p.parent? = some q) :
    q.Rooted ∧ ∃ gap last, q.Extends p gap last := by
  obtain ⟨hq, gap, last, back, hnames, hgap, hlast, hback⟩ := rooted_parent? h.absolute hp
  -- what is idle behind the last part would be at the end of the path
  obtain rfl : back = [] := by
    rcases List.eq_nil_or_concat back with hn | ⟨xs, x, rfl⟩
    · exact hn
    · have hends : p.names = q.names ++ (gap ++ last :: xs) ++ [x] := by simp [hnames]
      have hx : x ∈ p.names.getLast? := by rw [hends, List.getLast?_concat]; rfl
      exact absurd (hback x (by simp)) (h.tidy.names x hx)
  exact ⟨hq, gap, last, hp, hnames, hgap, hlast⟩

theorem Rooted.cases (h : p.Rooted) :
    p.names = [] ∨ ∃ (q : Path) (gap : List (List Char)) (last : List Char),
      q.Rooted ∧ q.Extends p gap last := by
  cases hp : p.parent? with
  | none =>
    left
    rcases List.eq_nil_or_concat p.names with hn | ⟨xs, x, hn⟩
    · exact hn
    · have hx : x ∈ p.names.getLast? := by simp [hn]
      exact absurd (idle_of_parent?_eq_none h.absolute hp x (List.mem_of_getLast? hx))
        (h.tidy.names x hx)
  | some q =>
    obtain ⟨hq, gap, last, he⟩ := h.extends hp
    exact .inr ⟨q, gap, last, hq, he⟩

/-- What holds of the top, and is kept when a path goes on with one part, holds of all absolute
paths that end with their last step. -/
theorem Rooted.ind {motive : (p : Path) → p.Rooted → Prop}
    (top : ∀ (p : Path) (hp : p.Rooted), p.names = [] → motive p hp)
    (below : ∀ (q p : Path) gap last (hq : q.Rooted) (hp : p.Rooted), q.Extends p gap last →
      motive q hq → motive p hp) {p : Path} (hp : p.Rooted) : motive p hp := by
  induction hn : p.text.length using Nat.strongRecOn generalizing p with
  | _ n ih =>
    subst hn
    rcases hp.cases with hnames | ⟨q, gap, last, hq, he⟩
    · exact top p hp hnames
    · exact below q p gap last hq hp he (ih _ (length_of_parent? he.parent) hq rfl)

namespace Extends

theorem getLast?_names (h : q.Extends p gap last) : p.names.getLast? = some last := by
  rw [h.names, ← List.append_assoc, List.getLast?_concat]

theorem dropLast_names (h : q.Extends p gap last) : p.names.dropLast = q.names ++ gap := by
  rw [h.names, ← List.append_assoc, List.dropLast_concat]

/-- A path has one part more to walk along than its parent. -/
theorem strides (h : q.Extends p gap last) : p.strides = q.strides ++ [last] := by
  have hgap : gap.filter (fun part => !idle part) = [] :=
    List.filter_eq_nil_iff.mpr fun part hp => by simp [h.gap part hp]
  rw [← filter_names, ← filter_names, h.names, List.filter_append, List.filter_append, hgap,
    List.nil_append, List.filter_cons_of_pos (by simp [h.last])]
  rfl

theorem place (h : q.Extends p gap last) : p.place = q.place.behind last := by
  rw [Path.place, Path.place, h.strides, List.foldl_append]
  rfl

theorem fits (h : q.Extends p gap last) (hq : q.Rooted) (hp : p.Fits) : q.Fits := by
  obtain ⟨tail, htail⟩ := text_prefix_of_parent? h.parent hq.ne_nil
  obtain ⟨hnul, hshort, hnames⟩ := hp
  rw [htail] at hnul hshort
  rw [byteCount_append] at hshort
  rw [h.strides] at hnames
  exact ⟨fun hm => hnul (List.mem_append_left tail hm), by omega,
    fun part hm => hnames part (List.mem_append_left _ hm)⟩

end Extends

/-- A path lies deeper than one above it, if no path between ends with two dots. -/
theorem length_place_of_above (hp : p.Rooted) (h : q.Above p)
    (hup : ∀ r : Path, (r = p ∨ r.Above p) → q.Above r → r.strides.getLast? ≠ some ['.', '.']) :
    q.place.length < p.place.length := by
  have hdown : ∀ {r x : Path} {gap : List (List Char)} {last : List Char}, r.Extends x gap last →
      x.strides.getLast? ≠ some ['.', '.'] → x.place.length = r.place.length + 1 := by
    intro r x gap last he hx
    have hlast : last ≠ ['.', '.'] := by
      rintro rfl
      rw [he.strides, List.getLast?_concat] at hx
      exact hx rfl
    rw [he.place, Location.behind, if_neg hlast, List.length_cons]
  -- each path on the way down is one place below its parent, unless it ends with two dots
  induction h with
  | parent hq =>
    obtain ⟨-, gap, last, he⟩ := hp.extends hq
    have := hdown he (hup _ (.inl rfl) (.parent hq))
    omega
  | up hr hq ih =>
    obtain ⟨hrooted, gap, last, he⟩ := hp.extends hr
    have := hdown he (hup _ (.inl rfl) (.up hr hq))
    have := ih hrooted fun x hx => hup x (.inr (hx.elim (· ▸ .parent hr) (.up hr)))
    omega

end Path

end Remap
