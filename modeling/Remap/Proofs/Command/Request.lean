import Remap.Command.Request
/-!
# Which arguments make a request

Arguments that search for nothing make a request exactly if they name an input and a mapping, and if
the paths that they name can be used: the first two lead to files, the mapping has its extension,
and a file to be written has a name and an extension and is no directory.

Main statement: `resolve_eq_ok_iff`.
-/

namespace Remap

variable {look : Look Id} {s : Surroundings} {a : Arguments} {r : Request}

/-! ## Modes -/

/-- Where the text goes that `output` asks for. -/
inductive Leads (s : Surroundings) : Option (Option (List Char)) → Mode → Prop
  | stdout : Leads s none .stdout
  | overwrite : Leads s (some none) .overwrite
  | file (typed : List Char) : Leads s (some (some typed)) (.file (s.fullPath (Text.trim typed)))

theorem Leads.ne_search {output : Option (Option (List Char))} {mode : Mode} {term : List Char}
    (h : Leads s output mode) : mode ≠ .search term := by
  rintro rfl
  cases h

/-- The file that is to be written, by what `output` asks for. -/
theorem Leads.target?_eq {output : Option (Option (List Char))} (h : Leads s output r.mode) :
    r.target? = output.map fun typed =>
      match typed with
      | none => r.input
      | some typed => s.fullPath (Text.trim typed) := by
  unfold Request.target?
  generalize r.mode = mode at h
  cases h <;> rfl

theorem Leads.target {output : Option (Option (List Char))} {target : Path}
    (h : Leads s output r.mode) (ht : r.target? = some target) :
    (output = some none ∧ target = r.input) ∨
      ∃ typed, output = some (some typed) ∧ target = s.fullPath (Text.trim typed) := by
  rw [h.target?_eq] at ht
  match output, ht with
  | some none, ht => cases ht; exact .inl ⟨rfl, rfl⟩
  | some (some typed), ht => cases ht; exact .inr ⟨typed, rfl, rfl⟩

theorem Leads.target_eq_none {output : Option (Option (List Char))}
    (h : Leads s output r.mode) (ht : r.target? = none) : output = none := by
  rwa [h.target?_eq, Option.map_eq_none_iff] at ht

/-- The mode is the one that is asked for, if a file to be written can be. -/
theorem resolveMode_eq_ok_iff {output : Option (Option (List Char))} {mode : Mode} :
    (resolveMode look s output : Except Refusal Mode) = .ok mode ↔
      Leads s output mode ∧
        ∀ p, mode = .file p → p.hasNameAndExtension = true ∧ look.isDirectory p = false := by
  constructor
  · intro h
    unfold resolveMode at h
    split at h
    · cases h; exact ⟨.stdout, by simp⟩
    · cases h; exact ⟨.overwrite, by simp⟩
    next typed =>
      simp only [pure, bind] at h
      split at h
      · cases h
      next hname =>
        split at h
        · cases h
        next hdir =>
          cases h
          refine ⟨.file typed, ?_⟩
          rintro p hp
          cases hp
          exact ⟨by simpa using hname, by simpa using hdir⟩
  -- each way that a mode is led to is one branch, and its conditions are those of that branch
  · rintro ⟨h, hfile⟩
    cases h with
    | stdout => rfl
    | overwrite => rfl
    | file typed =>
      obtain ⟨hname, hdir⟩ := hfile _ rfl
      simp only [resolveMode, pure, bind, hname, Bool.not_true, Bool.false_eq_true, if_false, hdir]

/-! ## Requests -/

/-- The paths of a request can be used. -/
structure Request.Usable (look : Look Id) (r : Request) : Prop where
  input : (fileProblem? look r.input none : Option FileProblem) = none
  mapping : (fileProblem? look r.mapping (some mappingExtension) : Option FileProblem) = none
  output : ∀ p, r.mode = .file p → p.hasNameAndExtension = true ∧ look.isDirectory p = false

/-- Arguments name the files of a request, and where its text goes. -/
structure Arguments.Names (a : Arguments) (s : Surroundings) (r : Request) : Prop where
  arguments : r.arguments = a
  input : ∃ typed, a.input = some typed ∧ r.input = s.fullPath (Text.trim typed)
  mapping : ∃ typed, a.mapping = some typed ∧ r.mapping = s.fullPath (Text.trim typed)
  mode : Leads s a.output r.mode

theorem refusal?_eq_none_iff {role : Role} {p : Path} {extension : Option (List Char)} :
    (refusal? look role p extension : Option Refusal) = none ↔
      (fileProblem? look p extension : Option FileProblem) = none := by
  unfold refusal?
  simp only [bind, pure]
  cases (fileProblem? look p extension : Option FileProblem) with
  | none => simp
  | some problem => cases problem <;> simp

/-- Arguments make the request that passes its checks. -/
theorem resolve_eq_ok_iff_check :
    (a.resolve look s : Except Refusal Request) = .ok r ↔
      (a.unchecked.check look s : Request × Option Refusal) = (r, none) := by
  unfold Arguments.resolve
  simp only [bind, pure]
  generalize (a.unchecked.check look s : Request × Option Refusal) = checked
  obtain ⟨r', refusal⟩ := checked
  cases refusal with
  | none => constructor <;> rintro ⟨⟩ <;> rfl
  | some e => constructor <;> rintro ⟨⟩

/-- Arguments make the request that they name, if its paths can be used, and no other one. -/
theorem resolve_eq_ok_iff (hs : a.search = none) :
    (a.resolve look s : Except Refusal Request) = .ok r ↔ a.Names s r ∧ r.Usable look := by
  rw [resolve_eq_ok_iff_check]
  constructor
  · intro h
    unfold Request.check Arguments.unchecked at h
    split at h
    next hsome => rw [hs] at hsome; cases hsome
    next => cases h
    next => cases h
    next input mapping _ hi hm =>
      -- every check can only refuse, so that all of them have been passed
      simp only [pure, bind] at h
      split at h
      · cases h
      next hinput =>
        split at h
        · cases h
        next hmapping =>
          split at h
          · cases h
          next mode hmode =>
            cases h
            obtain ⟨hleads, hfile⟩ := resolveMode_eq_ok_iff.mp hmode
            exact ⟨⟨rfl, ⟨input, hi, rfl⟩, ⟨mapping, hm, rfl⟩, hleads⟩,
              ⟨refusal?_eq_none_iff.mp hinput, refusal?_eq_none_iff.mp hmapping, hfile⟩⟩
  · rintro ⟨⟨rfl, ⟨input, hi, hri⟩, ⟨mapping, hm, hrm⟩, hleads⟩, ⟨hinput, hmapping, hfile⟩⟩
    have hmode := resolveMode_eq_ok_iff.mpr ⟨hleads, hfile⟩
    have hinput : refusal? look .input r.input none = none := refusal?_eq_none_iff.mpr hinput
    have hmapping : refusal? look .mapping r.mapping (some mappingExtension) = none :=
      refusal?_eq_none_iff.mpr hmapping
    unfold Request.check Arguments.unchecked
    simp only [hs, hi, hm, pure, bind, ← hri, ← hrm, hinput, hmapping, hmode]

end Remap
