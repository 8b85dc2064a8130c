import Remap.Proofs.Files.Saving
/-!
# Saving where a file was

A path that leads to a file can be written to: the directory above it is there, so that none has to
be made, and the walk for writing goes the same way as the one for reading.

Main statements: `save_of_read` and `read_of_save`.
-/

namespace Remap.FileTree

variable {t t' : FileTree} {current place l : Location} {p : Path} {text : List Char}

/-! ## What can be read -/

/-- A text that can be read stands in a file to which the path leads. -/
theorem read_eq_ok_iff :
    t.read current p = .ok text ↔
      ∃ l, t.find current p = .ok l ∧ t.at? l = some (.file (.text text)) := by
  unfold read
  cases hf : t.find current p with
  | error e => simp
  | ok l =>
    simp only [Except.ok.injEq, exists_eq_left']
    split <;> simp_all

/-- A path that leads to something other than a directory leads to a file, which has a text or has
none. -/
theorem read_of_file (h : t.leadsSomewhere current p = true)
    (hd : t.isDirectory current p = false) :
    (∃ text, t.read current p = .ok text) ∨ t.read current p = .error .notText := by
  obtain ⟨l, hf⟩ := leadsSomewhere_iff.mp h
  obtain ⟨node, hn, hlink⟩ := solid_of_find hf
  unfold read
  rw [hf]
  cases node with
  | file content =>
    cases content with
    | text cs => exact .inl ⟨cs, by simp only [hn]⟩
    | binary bytes => exact .inr (by simp only [hn])
  | directory =>
    have := isDirectory_iff.mpr ⟨l, hf, hn⟩
    rw [hd] at this
    cases this
  | link target => exact absurd rfl (hlink target)

/-! ## Walking for writing -/

/-- A walk along parts that end with a slash ends at a directory. -/
theorem at?_of_walk_slash {links : Nat} (xs : List (List Char))
    (h : t.walk false links place (xs ++ [[]]) = .ok (.entry l)) : t.at? l = some .directory := by
  obtain ⟨d, hd, hwalk⟩ := walk_front (List.cons_ne_nil [] []) h
  obtain ⟨k, hk⟩ := walk_append hwalk
  rw [hk, walk_idle hd (by decide), walk_nil] at h
  cases h
  exact hd

/-- A walk that ends at a file goes the same way when it is for writing. -/
theorem walk_writing {links : Nat} {parts : List (List Char)}
    (h : t.walk false links place parts = .ok (.entry l)) (hl : t.at? l ≠ some .directory) :
    t.walk true links place parts = .ok (.entry l) := by
  fun_induction walk t false links place parts with
  | case1 => cases h; exact walk_nil
  | case2 => cases h
  | case3 _ _ _ _ hd hi ih => rw [walk_idle (by simpa using hd) hi]; exact ih h
  | case4 _ _ _ hd _ ih => rw [walk_up (by simpa using hd)]; exact ih h
  | case5 => cases h
  | case6 => cases h
  | case7 => cases h
  | case8 => cases h
  | case9 => cases h
  | case10 place part rest hd hi hu _ hb target hlink links ih =>
    -- with a slash at the end the walk would have ended at a directory
    have hrest : rest ≠ [[]] := by
      rintro rfl
      exact hl (at?_of_walk_slash target.trail h)
    rw [walk, if_neg hd, if_neg hi, if_neg hu, if_neg (by simp [hrest]), if_neg hb, hlink]
    exact ih h
  | case11 links place part rest hd hi hu _ hb node hn hsome ih =>
    have hrest : rest ≠ [[]] := by
      rintro rfl
      exact hl (at?_of_walk_slash [] h)
    rw [walk, if_neg hd, if_neg hi, if_neg hu, if_neg (by simp [hrest]), if_neg hb, hsome]
    cases node with
    | link target => exact absurd rfl (hn target)
    | file content => exact ih h
    | directory => exact ih h

theorem locate_writing (h : t.find current p = .ok l) (hl : t.at? l ≠ some .directory) :
    t.locate current true p = .ok (.entry l) := by
  obtain ⟨start, he, hwalk⟩ := find_eq_ok_iff.mp h
  simp only [locate, he, walk_writing hwalk hl]

theorem write_of_file {content : Content} (new : Content) (h : t.find current p = .ok l)
    (hl : t.at? l = some (.file content)) : ∃ t', t.write current p new = .ok t' := by
  have hne : t.at? l ≠ some .directory := by simp [hl]
  unfold write
  rw [locate_writing h hne]
  cases l with
  | nil => exact absurd rfl hne
  | cons name dir => exact ⟨_, if_neg hne⟩

/-! ## Directories that are there -/

theorem at?_ne_none_of_walk {links : Nat} {name : List Char} {rest : List (List Char)}
    (hn : IsName name) (h : t.walk false links place (name :: rest) = .ok (.entry l)) :
    t.at? (name :: place) ≠ none := by
  intro hnone
  rw [walk] at h
  split at h
  · cases h
  rw [if_neg hn.idle, if_neg hn.up, if_neg (by simp), if_neg hn.short, hnone] at h
  simp only at h
  split at h <;> cases h

/-- A directory that is there is not made once more, and what stands above it is not missing. -/
theorem makeDirectory_of_isDirectory (h : t.isDirectory current p = true) :
    ∃ e, e ≠ .notFound ∧ t.makeDirectory current p = .error e := by
  obtain ⟨l, hf, -⟩ := isDirectory_iff.mp h
  obtain ⟨start, he, hwalk⟩ := find_eq_ok_iff.mp hf
  unfold makeDirectory
  simp only [he]
  cases hlast : p.names.getLast? with
  | none => exact ⟨.alreadyExists, by simp, rfl⟩
  | some last =>
    obtain ⟨front, hfront⟩ := List.getLast?_eq_some_iff.mp hlast
    obtain ⟨slash, htrail⟩ : ∃ slash, p.trail = front ++ last :: slash := by
      unfold Path.trail
      split
      · exact ⟨[[]], by rw [hfront, List.append_assoc]; rfl⟩
      · exact ⟨[], hfront⟩
    rw [htrail] at hwalk
    -- the walk to the directory comes through the place above it, from where its last name is taken
    obtain ⟨d, hd, hbefore⟩ := walk_front (List.cons_ne_nil last slash) hwalk
    obtain ⟨k, hk⟩ := walk_append hbefore
    rw [hk] at hwalk
    rw [hfront, List.dropLast_concat, hbefore]
    simp only [hd, ne_eq, not_true_eq_false, if_false]
    split
    · exact ⟨.alreadyExists, by simp, rfl⟩
    next hi =>
      split
      · exact ⟨.nameTooLong, by simp, rfl⟩
      next hb =>
        simp only [Bool.or_eq_true, not_or] at hi
        have hname : IsName last := ⟨hi.1, by simpa using hi.2, hb⟩
        have hsome := Option.isSome_iff_ne_none.mpr (at?_ne_none_of_walk hname hwalk)
        exact ⟨.alreadyExists, by simp, if_pos hsome⟩

theorem makeDirectories_of_isDirectory (h : t.isDirectory current p = true) :
    t.makeDirectories current p = (t, none) := by
  obtain ⟨e, he, hmake⟩ := makeDirectory_of_isDirectory h
  rw [makeDirectories]
  split
  · rfl
  · rw [hmake]
    cases e with
    | notFound => exact absurd rfl he
    | _ => rfl

/-! ## Saving -/

/-- A text can be saved where one can be read. -/
theorem save_of_read (h : t.read current p = .ok text) (new : List Char) :
    ∃ t', t.save current p new = (t', none) := by
  obtain ⟨l, hf, hl⟩ := read_eq_ok_iff.mp h
  have hmake : t.makeDirectories current (p.parent?.getD ⟨[]⟩) = (t, none) := by
    cases hp : p.parent? with
    | none => rw [Option.getD_none, makeDirectories, if_pos rfl]
    | some above =>
      by_cases ha : above.text = []
      · rw [Option.getD_some, makeDirectories, if_pos ha]
      · exact makeDirectories_of_isDirectory (isDirectory_parent? hf hp ha)
  obtain ⟨t', hwrite⟩ := write_of_file (.text new) hf hl
  exact ⟨t', by simp only [save, hmake, hwrite]⟩

theorem read_of_save {target : Path} (h : t.save current target text = (t', none)) :
    t'.read current target = .ok text := by
  obtain ⟨place, hsaved⟩ := saved_save h
  exact read_eq_ok_iff.mpr ⟨place, hsaved.leads, hsaved.holds⟩

end Remap.FileTree
