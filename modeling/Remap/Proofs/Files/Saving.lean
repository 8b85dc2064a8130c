import Remap.Files.Conversion
import Remap.Proofs.Files.Growth
import Remap.Proofs.Path.Ancestor
/-!
# What saving changes

Making directories puts directories where nothing was, each of them under a name that leads to the
path or to one above it. Writing then puts one file where nothing was, or in the place of a file.

Main statements: `widens_makeDirectories`, and `saved_save` for a text that was saved.
-/

namespace Remap.FileTree

variable {t t' t'' : FileTree} {current : Location}

/-! ## Directories above a path -/

theorem entrance_of_parent? {p q : Path} {place : Location} (h : entrance current p = .ok place)
    (hq : p.parent? = some q) (hne : q.text ≠ []) : entrance current q = .ok place := by
  obtain ⟨c, cs, hc⟩ : ∃ c cs, q.text = c :: cs := by
    cases hq' : q.text with
    | nil => exact absurd hq' hne
    | cons c cs => exact ⟨c, cs, rfl⟩
  obtain ⟨tail, htail⟩ := Path.text_prefix_of_parent? hq hne
  have habs : p.isAbsolute = q.isAbsolute := by simp [Path.isAbsolute, htail, hc]
  unfold entrance at h ⊢
  -- the parent is written with the first characters of the path, so it has no NUL and is no longer
  rw [htail, byteCount_append, habs] at h
  split at h
  · cases h
  next h0 =>
    split at h
    · cases h
    split at h
    · cases h
    next hb =>
      rw [if_neg (fun hm => h0 (List.mem_append_left _ hm)), if_neg hne, if_neg (by omega)]
      exact h

theorem isDirectory_parent? {p q : Path} {l : Location} (h : t.find current p = .ok l)
    (hq : p.parent? = some q) (hne : q.text ≠ []) : t.isDirectory current q = true := by
  obtain ⟨place, he, hwalk⟩ := find_eq_ok_iff.mp h
  obtain ⟨more, hm, hn⟩ := Path.names_of_parent? hq hne
  -- the path has a name behind its parent, which the walk can only take from a directory
  obtain ⟨rest, hr, htrail⟩ : ∃ rest, rest ≠ [] ∧ p.trail = q.names ++ rest := by
    unfold Path.trail
    split
    · exact ⟨more ++ [[]], by simp, by rw [hn, List.append_assoc]⟩
    · exact ⟨more, hm, hn⟩
  rw [htrail] at hwalk
  obtain ⟨d, hd, hwalk⟩ := walk_front hr hwalk
  rw [isDirectory_iff]
  exact ⟨d, find_eq_ok_iff.mpr ⟨place, entrance_of_parent? he hq hne, walk_trail hd hwalk⟩, hd⟩

/-- All paths above one that leads to a directory lead to directories, down from the empty one. -/
theorem isDirectory_of_above {p q : Path} (hq : q.Above p) (hne : q.text ≠ [])
    {l : Location} (h : t.find current p = .ok l) : t.isDirectory current q = true := by
  induction hq generalizing l with
  | parent hp => exact isDirectory_parent? h hp hne
  | @up r p hp hq ih =>
    have hr : r.text ≠ [] := by
      intro he
      obtain ⟨text⟩ := r
      cases he
      exact Path.not_above rfl hq
    obtain ⟨k, hk, -⟩ := isDirectory_iff.mp (isDirectory_parent? h hp hr)
    exact ih hk

/-! ## Making directories -/

/-- The trees agree but for directories of `t'` that stand where nothing was, each at a location to
which a path of some kind now leads. -/
def Widens (t t' : FileTree) (current : Location) (kind : Path → Prop) : Prop :=
  ∀ l, t'.at? l = t.at? l ∨
    (t.at? l = none ∧ t'.at? l = some .directory ∧ ∃ q, kind q ∧ t'.find current q = .ok l)

variable {kind kind' : Path → Prop}

theorem Widens.refl (t : FileTree) : t.Widens t current kind := fun _ => .inl rfl

theorem Widens.imp (hk : ∀ q, kind q → kind' q) (h : t.Widens t' current kind) :
    t.Widens t' current kind' := by
  intro l
  rcases h l with h | ⟨h0, h1, q, hq, hl⟩
  · exact .inl h
  · exact .inr ⟨h0, h1, q, hk q hq, hl⟩

theorem Widens.grows (h : t.Widens t' current kind) : t.Grows t' := by
  have same : ∀ {k x}, t.at? k = some x → t'.at? k = some x := fun hk => at?_eq_some_of_new (h _) hk
  exact ⟨same, same, fun hk => ⟨_, same hk⟩⟩

theorem Widens.trans (h : t.Widens t' current kind) (h' : t'.Widens t'' current kind) :
    t.Widens t'' current kind := by
  intro l
  -- made in the second step, in the first, or in neither
  rcases h' l with h2 | ⟨h0, h1, hq⟩
  · rcases h l with h | ⟨h0, h1, q, hq, hl⟩
    · exact .inl (h2.trans h)
    · exact .inr ⟨h0, h2.trans h1, q, hq, find_grows h'.grows hl⟩
  · refine .inr ⟨?_, h1, hq⟩
    rcases h l with h | ⟨-, h, -⟩
    · rw [← h, h0]
    · rw [h] at h0
      cases h0

/-- The path of a directory that was made leads to it, and nothing was there before. -/
theorem find_makeDirectory {p : Path} (h : t.makeDirectory current p = .ok t') :
    ∃ place, t.at? place = none ∧ t'.find current p = .ok place ∧
      ∀ l, t'.at? l = if l = place then some .directory else t.at? l := by
  unfold makeDirectory at h
  split at h
  · cases h
  next start hs =>
    split at h
    · cases h
    next last hlast =>
      split at h
      · cases h
      · cases h
      next dir hdir =>
        repeat' split at h
        · cases h
        · cases h
        · cases h
        · cases h
        next hd hi hb hn =>
          -- the only case in which a directory is made
          cases h
          have hd : t.at? dir = some .directory := by simpa using hd
          have hn : t.at? (last :: dir) = none := by simpa using hn
          have hname : IsName last := by
            simp only [Bool.or_eq_true, not_or] at hi
            exact ⟨hi.1, by simpa using hi.2, hb⟩
          have hpart : IsPart last :=
            isPart_of_mem_names (noNul_of_entrance hs) (List.mem_of_getLast? hlast)
          have hat : ∀ l, (t.put dir last .directory).at? l =
              if l = last :: dir then some .directory else t.at? l :=
            at?_put ⟨hd, by simp [hn], hpart.entryName hname, trivial⟩
          have g := grows_of_at?_eq_none hn hat
          have hnew : (t.put dir last .directory).at? (last :: dir) = some .directory := by
            rw [hat, if_pos rfl]
          refine ⟨last :: dir, hn, ?_, hat⟩
          -- the walk to the place above goes on over the new name, and over a slash at the end
          have hs' : (t.put dir last .directory).Solid (Spot.entry dir).place :=
            g.solid ⟨.directory, hd, by simp⟩
          obtain ⟨k, hk⟩ := walk_append (walk_of_grows g hs' hdir)
          have hnames : (t.put dir last .directory).walk false maxLinks start p.names =
              .ok (.entry (last :: dir)) := by
            obtain ⟨front, hfront⟩ := List.getLast?_eq_some_iff.mp hlast
            rw [hfront, List.dropLast_concat] at hk
            rw [hfront, hk, Spot.place,
              walk_solid (g.directory hd) hname ⟨.directory, hnew, by simp⟩, walk_nil]
          simp only [find, locate, hs, walk_trail hnew hnames]

theorem widens_makeDirectory {p : Path} (h : t.makeDirectory current p = .ok t') :
    t.Widens t' current (fun q => q = p ∨ q.Above p) ∧ t'.isDirectory current p = true := by
  obtain ⟨place, hn, hf, hat⟩ := find_makeDirectory h
  have hnew : t'.at? place = some .directory := by rw [hat, if_pos rfl]
  refine ⟨fun l => ?_, isDirectory_iff.mpr ⟨place, hf, hnew⟩⟩
  by_cases hl : l = place
  · subst hl
    exact .inr ⟨hn, hnew, p, .inl rfl, hf⟩
  · exact .inl (by rw [hat, if_neg hl])

/-- Making directories along a path makes only such as the path or one above it leads to, whether
it comes to an end or not; if it does, the path leads to a directory. -/
theorem widens_makeDirectories (t : FileTree) (current : Location) (p : Path) :
    t.Widens (t.makeDirectories current p).1 current (fun q => q = p ∨ q.Above p) ∧
      ((t.makeDirectories current p).2 = none →
        p.text = [] ∨ (t.makeDirectories current p).1.isDirectory current p = true) := by
  -- directories above the parent stand above the path too, and making the path itself adds one more
  fun_induction makeDirectories t current p with
  | case1 p hp => exact ⟨Widens.refl t, fun _ => .inl hp⟩
  | case2 p _ t' h =>
    obtain ⟨hw, hd⟩ := widens_makeDirectory h
    exact ⟨hw, fun _ => .inr hd⟩
  | case3 => exact ⟨Widens.refl t, by simp⟩
  | case4 p _ _ above ha t' e hm ih =>
    rw [hm] at ih
    exact ⟨ih.1.imp fun _ hq => .inr ((Path.above_iff ha).mpr hq), by simp⟩
  | case5 p _ _ above ha t' hm t'' h ih =>
    rw [hm] at ih
    obtain ⟨hw, hd⟩ := widens_makeDirectory h
    exact ⟨(ih.1.imp fun _ hq => .inr ((Path.above_iff ha).mpr hq)).trans hw, fun _ => .inr hd⟩
  | case6 p _ _ above ha t' hm e _ ih =>
    rw [hm] at ih
    refine ⟨ih.1.imp fun _ hq => .inr ((Path.above_iff ha).mpr hq), fun hn => .inr ?_⟩
    simpa using hn
  | case7 p _ e _ _ => exact ⟨Widens.refl t, fun hn => .inr (by simpa using hn)⟩

theorem widens_above (t : FileTree) (current : Location) (target : Path) :
    t.Widens (t.makeDirectories current (target.parent?.getD ⟨[]⟩)).1 current
      (fun q => q.Above target) := by
  cases hp : target.parent? with
  | none =>
    have hsame : (t.makeDirectories current ⟨[]⟩).1 = t := by rw [makeDirectories]; rfl
    rw [Option.getD_none, hsame]
    exact Widens.refl t
  | some dir =>
    exact (widens_makeDirectories t current dir).1.imp fun _ => (Path.above_iff hp).mpr

/-! ## Writing -/

/-- A file that was put where a path leads is where it leads now. -/
theorem find_put {writing : Bool} {p : Path} {spot : Spot} {dir : Location} {name : List Char}
    {content : Content} (hl : t.locate current writing p = .ok spot)
    (hs : spot.place = name :: dir) (hd : t.at? dir = some .directory) (hname : EntryName name)
    (hp : t.at? (name :: dir) = none ∨ ∃ c, t.at? (name :: dir) = some (.file c)) :
    (t.put dir name (.file content)).find current p = .ok (name :: dir) ∧
      ∀ l, (t.put dir name (.file content)).at? l =
        if l = name :: dir then some (.file content) else t.at? l := by
  have hne : t.at? (name :: dir) ≠ some .directory := by
    rcases hp with hp | ⟨c, hp⟩ <;> simp [hp]
  have hat : ∀ l, (t.put dir name (.file content)).at? l =
      if l = name :: dir then some (.file content) else t.at? l :=
    at?_put ⟨hd, hne, hname, trivial⟩
  refine ⟨?_, hat⟩
  rw [← hs] at hat ⊢
  exact find_of_grows (grows_of_at?_file (hs ▸ hp) hat)
    ⟨.file content, by rw [hat, if_pos rfl], by simp⟩ hl

/-- A file that was written is where its path leads now; nothing was there before, or a file. -/
theorem find_write {p : Path} {content : Content} (h : t.write current p content = .ok t') :
    ∃ place, (t.at? place = none ∨ ∃ c, t.at? place = some (.file c)) ∧
      t'.find current p = .ok place ∧
      ∀ l, t'.at? l = if l = place then some (.file content) else t.at? l := by
  unfold write at h
  split at h
  · cases h
  next dir name hl =>
    cases h
    obtain ⟨hd, hn, hname⟩ := holds_of_locate_ok hl
    exact ⟨name :: dir, .inl hn, find_put hl rfl hd hname (.inl hn)⟩
  · cases h
  next name dir hl =>
    split at h
    · cases h
    next hne =>
      cases h
      obtain ⟨node, hn, hlink⟩ := holds_of_locate_ok hl
      -- a walk does not stop at a link, and a directory has been excluded
      obtain ⟨c, rfl⟩ : ∃ c, node = .file c := by
        cases node with
        | file c => exact ⟨c, rfl⟩
        | directory => exact absurd hn hne
        | link target => exact absurd rfl (hlink target)
      exact ⟨name :: dir, .inr ⟨c, hn⟩,
        find_put hl rfl (at?_tail hn) (entryName_of_at? hn) (.inr ⟨c, hn⟩)⟩

/-! ## Saving -/

/-- What is different after a text was saved under a path: `place` holds the text, and directories
stand above it that were missing. -/
structure Saved (t t' : FileTree) (current : Location) (target : Path) (text : List Char)
    (place : Location) : Prop where
  /-- The path leads to the place now. -/
  leads : t'.find current target = .ok place
  /-- If it led anywhere before, it was to the same place. -/
  led : ∀ l, t.find current target = .ok l → l = place
  /-- Nothing was there before, or a file. -/
  free : t.at? place = none ∨ ∃ c, t.at? place = some (.file c)
  holds : t'.at? place = some (.file (.text text))
  above : ∀ q, q.Above target → q.text ≠ [] → t'.isDirectory current q = true
  others : ∀ l, l ≠ place → t'.at? l = t.at? l ∨
    (t.at? l = none ∧ t'.at? l = some .directory ∧
      ∃ q, q.Above target ∧ t'.find current q = .ok l)

/-- A text that was saved without an error is in the file to which its path leads, and nothing else
has changed but for directories above it. -/
theorem saved_save {target : Path} {text : List Char}
    (h : t.save current target text = (t', none)) :
    ∃ place, t.Saved t' current target text place := by
  simp only [save] at h
  have hw := widens_above t current target
  split at h
  · cases h
  next made hmade =>
    rw [hmade] at hw
    split at h
    next after hafter =>
      cases h
      obtain ⟨place, hfree, hleads, hat⟩ := find_write hafter
      have g := grows_of_at?_file hfree hat
      have hholds : t'.at? place = some (.file (.text text)) := by rw [hat, if_pos rfl]
      refine ⟨place, hleads, ?_, ?_, hholds, ?_, ?_⟩
      -- a path that led somewhere still leads there after both steps
      · intro l hl
        have := find_grows g (find_grows hw.grows hl)
        rw [hleads] at this
        exact (Except.ok.inj this).symm
      -- making directories left the place as it was, since what it makes is no file
      · rcases hw place with hs | ⟨h0, hd, -⟩
        · rwa [← hs]
        · exact .inl h0
      · intro q hq hne
        exact isDirectory_of_above hq hne hleads
      · intro l hl
        rw [hat, if_neg hl]
        rcases hw l with hs | ⟨h0, hd, q, hq, hf⟩
        · exact .inl hs
        · exact .inr ⟨h0, hd, q, hq, find_grows g hf⟩
    · cases h

end Remap.FileTree
