import Remap.Proofs.Command.Request
import Remap.Proofs.Unicode.Lowercase
/-!
# The order of the checks

Arguments that search for nothing have to meet a list of demands. They are refused for the first one
that they do not meet, and they are accepted if there is none.

Main statement: `check_demands`.
-/

namespace Remap

variable {t : FileTree} {current : Location} {s : Surroundings} {r : Request} {p : Path}

/-! ## Demands -/

/-- Something that has to be so, and the refusal if it is not. -/
abbrev Demand := Prop × Refusal

/-- The first demand that is not met has the refusal `e`. -/
def FirstUnmet (ds : List Demand) (e : Refusal) : Prop :=
  ∃ front c back, ds = front ++ (c, e) :: back ∧ (∀ d ∈ front, d.1) ∧ ¬ c

/-- Demands are settled one after the other, up to the first that is not met. -/
inductive Settles : List Demand → Option Refusal → Prop
  | done : Settles [] none
  | met {c : Prop} {e : Refusal} {ds o} : c → Settles ds o → Settles ((c, e) :: ds) o
  | unmet {c : Prop} {e : Refusal} {ds} : ¬ c → Settles ((c, e) :: ds) (some e)

namespace Settles

variable {ds es : List Demand} {e : Refusal} {o : Option Refusal}

theorem append (h : Settles ds none) (h' : Settles es o) : Settles (ds ++ es) o := by
  generalize hn : none = o' at h
  induction h with
  | done => exact h'
  | met hc _ ih => exact .met hc (ih hn)
  | unmet => cases hn

theorem stop (h : Settles ds (some e)) (es : List Demand) : Settles (ds ++ es) (some e) := by
  generalize hn : some e = o' at h
  induction h with
  | done => cases hn
  | met hc _ ih => exact .met hc (ih hn)
  | unmet hc =>
    cases hn
    exact .unmet hc

/-- Nothing is refused exactly if all demands are met. -/
theorem eq_none_iff (h : Settles ds o) : o = none ↔ ∀ d ∈ ds, d.1 := by
  induction h with
  | done => simp
  | met hc _ ih => simp [ih, hc]
  | unmet hc => simp [hc]

/-- What is refused is the first demand that is not met. -/
theorem eq_some_iff (h : Settles ds o) : o = some e ↔ FirstUnmet ds e := by
  induction h with
  | done => simp [FirstUnmet]
  -- a demand that is met goes in front of the ones before the first unmet
  | @met c e' ds o hc _ ih =>
    rw [ih]
    constructor
    · rintro ⟨front, c', back, rfl, hfront, hc'⟩
      exact ⟨(c, e') :: front, c', back, rfl, List.forall_mem_cons.mpr ⟨hc, hfront⟩, hc'⟩
    · rintro ⟨front, c', back, hds, hfront, hc'⟩
      cases front with
      | nil =>
        cases hds
        exact absurd hc hc'
      | cons d front =>
        obtain ⟨rfl, rfl⟩ := List.cons.inj hds
        exact ⟨front, c', back, rfl, (List.forall_mem_cons.mp hfront).2, hc'⟩
  -- nothing behind an unmet demand matters
  | @unmet c e' ds hc =>
    constructor
    · rintro ⟨⟩
      exact ⟨[], c, ds, rfl, by simp, hc⟩
    · rintro ⟨front, c', back, hds, hfront, -⟩
      cases front with
      | nil =>
        cases hds
        rfl
      | cons d front =>
        obtain ⟨rfl, rfl⟩ := List.cons.inj hds
        exact absurd (hfront _ List.mem_cons_self) hc

end Settles

/-! ## What is demanded of arguments -/

/-- The path has the extension `txt`, each letter small or capital. -/
def Path.IsMapping (p : Path) : Prop :=
  ∃ e, p.extension? = some e ∧ e.map Char.toLower = "txt".toList

/-- The path ends with a name that does not begin with a dot and has an extension. -/
def Path.IsNamed (p : Path) : Prop :=
  (∃ stem, p.stem? = some stem ∧ stem ≠ [] ∧ stem.head? ≠ some '.') ∧
    ∃ e, p.extension? = some e ∧ e ≠ []

/-- The path has to lead to something other than a directory. -/
def fileDemands (t : FileTree) (current : Location) (role : Role) (p : Path) : List Demand :=
  [(t.leadsSomewhere current p = true,
      .unusable role p .missing (suggestions (t.look current) p maxSuggestions : List (List Char))),
    (t.isDirectory current p = false, .unusable role p .directory [])]

/-- What is demanded of the file that `output` names, if any. -/
def outputDemands (t : FileTree) (current : Location) (s : Surroundings) :
    Option (Option (List Char)) → List Demand
  | some (some typed) =>
    let p := s.fullPath (Text.trim typed)
    [(p.IsNamed, .unnamedOutput),
      (t.isDirectory current p = false, .unusable .output p .directory [])]
  | _ => []

/-- What is demanded of the paths that are named, in order. -/
def pathDemands (t : FileTree) (current : Location) (s : Surroundings) (input mapping : Path)
    (output : Option (Option (List Char))) : List Demand :=
  fileDemands t current .input input ++
    (fileDemands t current .mapping mapping ++
      [(mapping.IsMapping, .unusable .mapping mapping (.extension mappingExtension) [])]) ++
    outputDemands t current s output

/-- What is demanded of arguments that search for nothing, in order. -/
def Arguments.demands (a : Arguments) (t : FileTree) (current : Location) (s : Surroundings) :
    List Demand :=
  (a.input ≠ none, .noInput) :: (a.mapping ≠ none, .noMapping) ::
    match a.input, a.mapping with
    | some input, some mapping =>
      pathDemands t current s (s.fullPath (Text.trim input)) (s.fullPath (Text.trim mapping))
        a.output
    | _, _ => []

/-! ## What is checked -/

theorem isMapping_iff :
    p.dottedExtension = Unicode.lowercase mappingExtension ↔ p.IsMapping := by
  have htxt : Unicode.lowercase mappingExtension = '.' :: "txt".toList := by cbv
  have hbehind : ∀ d ∈ "txt".toList, 'k'.toNat < d.toNat ∧ d.toNat < 0x80 := by simp
  rw [htxt, Path.dottedExtension, Path.IsMapping]
  cases p.extension? with
  | none => simp
  | some e =>
    rw [List.cons.injEq, Unicode.lowercase_eq_iff hbehind]
    simp

theorem hasNameAndExtension_iff : p.hasNameAndExtension = true ↔ p.IsNamed := by
  rw [Path.hasNameAndExtension, Path.IsNamed, Bool.and_eq_true]
  cases p.stem? <;> cases p.extension? <;> simp [and_comm]

/-- A path is refused as a file for the first of its demands that is not met. -/
theorem settles_refusal? (t : FileTree) (current : Location) (role : Role) (p : Path)
    (extension : Option (List Char)) :
    Settles (fileDemands t current role p ++ extension.toList.map fun e =>
        (p.dottedExtension = Unicode.lowercase e, .unusable role p (.extension e) []))
      (refusal? (t.look current) role p extension : Option Refusal) := by
  have hleads : ((t.look current).leadsSomewhere p : Bool) = t.leadsSomewhere current p := rfl
  have hdir : ((t.look current).isDirectory p : Bool) = t.isDirectory current p := rfl
  unfold refusal? fileProblem? fileDemands
  simp only [bind, pure, hleads, hdir]
  -- one case for each demand that may be the first unmet one, in the order of the checks
  cases hl : t.leadsSomewhere current p with
  | false => exact .unmet Bool.false_ne_true
  | true =>
    cases hd : t.isDirectory current p with
    | true => exact .met rfl (.unmet Bool.true_eq_false.mp)
    | false =>
      refine .met rfl (.met rfl ?_)
      cases extension with
      | none => exact .done
      | some e =>
        by_cases he : p.dottedExtension = Unicode.lowercase e
        · simp only [he, if_true]
          exact .met rfl .done
        · simp only [he, if_false]
          exact .unmet he

theorem settles_mapping (t : FileTree) (current : Location) (p : Path) :
    Settles (fileDemands t current .mapping p ++
        [(p.IsMapping, .unusable .mapping p (.extension mappingExtension) [])])
      (refusal? (t.look current) .mapping p (some mappingExtension) : Option Refusal) := by
  have h := settles_refusal? t current .mapping p (some mappingExtension)
  have hext : (p.dottedExtension = Unicode.lowercase mappingExtension) = p.IsMapping :=
    propext isMapping_iff
  simpa only [Option.toList_some, List.map_cons, List.map_nil, hext] using h

/-- A mode is refused for the first demand on the output file that is not met, and otherwise it is
the one that is asked for. -/
theorem settles_resolveMode (t : FileTree) (current : Location) (s : Surroundings)
    (output : Option (Option (List Char))) :
    (∃ mode, (resolveMode (t.look current) s output : Except Refusal Mode) = .ok mode ∧
      Leads s output mode ∧ Settles (outputDemands t current s output) none) ∨
    (∃ e, (resolveMode (t.look current) s output : Except Refusal Mode) = .error e ∧
      Settles (outputDemands t current s output) (some e)) := by
  -- without an output file, or with a bare `--out`, there is nothing to demand
  match output with
  | none => exact .inl ⟨_, rfl, .stdout, .done⟩
  | some none => exact .inl ⟨_, rfl, .overwrite, .done⟩
  | some (some typed) =>
    have hdir : ∀ p, ((t.look current).isDirectory p : Bool) = t.isDirectory current p :=
      fun _ => rfl
    unfold resolveMode outputDemands
    simp only [bind, pure, hdir]
    cases hname : (s.fullPath (Text.trim typed)).hasNameAndExtension with
    | false =>
      exact .inr ⟨_, rfl, .unmet fun h => by simp [hasNameAndExtension_iff.mpr h] at hname⟩
    | true =>
      have hname := hasNameAndExtension_iff.mp hname
      cases hd : t.isDirectory current (s.fullPath (Text.trim typed)) with
      | true => exact .inr ⟨_, rfl, .met hname (.unmet Bool.true_eq_false.mp)⟩
      | false => exact .inl ⟨_, rfl, .file typed, .met hname (.met rfl .done)⟩

/-! ## What becomes of a request -/

/-- What has become of the request `r` when it was checked. -/
structure Checked (t : FileTree) (current : Location) (s : Surroundings) (r r' : Request)
    (refusal : Option Refusal) : Prop where
  settles : Settles (r.arguments.demands t current s) refusal
  accepted : refusal = none → r.arguments.Names s r'
  refused : refusal ≠ none → r'.mode = r.mode

theorem Checked.refuse {r' : Request} {e : Refusal}
    (h : Settles (r.arguments.demands t current s) (some e)) (hm : r'.mode = r.mode) :
    Checked t current s r r' (some e) where
  settles := h
  accepted h := by cases h
  refused _ := hm

/-- A request whose files are given is checked against the demands on its paths. -/
theorem settles_of_given {input mapping : List Char} {o : Option Refusal}
    (hi : r.arguments.input = some input) (hm : r.arguments.mapping = some mapping)
    (h : Settles (pathDemands t current s (s.fullPath (Text.trim input))
      (s.fullPath (Text.trim mapping)) r.arguments.output) o) :
    Settles (r.arguments.demands t current s) o := by
  rw [Arguments.demands, hi, hm]
  exact .met (by simp) (.met (by simp) h)

/-- A request is checked against its demands in their order. -/
theorem checked_check (hs : r.arguments.search = none) :
    Checked t current s r (r.check (t.look current) s : Request × Option Refusal).1
      (r.check (t.look current) s : Request × Option Refusal).2 := by
  unfold Request.check
  simp only [hs]
  cases hi : r.arguments.input with
  | none =>
    refine .refuse ?_ rfl
    rw [Arguments.demands, hi]
    exact .unmet (by simp)
  | some input =>
    cases hm : r.arguments.mapping with
    | none =>
      refine .refuse ?_ rfl
      rw [Arguments.demands, hi, hm]
      exact .met (by simp) (.unmet (by simp))
    | some mapping =>
      have hinput := settles_refusal? t current .input
        (s.fullPath (Text.trim input)) none
      rw [Option.toList_none, List.map_nil, List.append_nil] at hinput
      have hmapping := settles_mapping t current
        (s.fullPath (Text.trim mapping))
      simp only [bind, pure]
      -- each check that refuses ends the list, and each that does not goes on with the next demands
      split
      next e he =>
        rw [he] at hinput
        exact .refuse (settles_of_given hi hm ((hinput.stop _).stop _)) rfl
      next he =>
        rw [he] at hinput
        split
        next e he =>
          rw [he] at hmapping
          exact .refuse (settles_of_given hi hm ((hinput.append hmapping).stop _)) rfl
        next he =>
          rw [he] at hmapping
          have hfiles := hinput.append hmapping
          rcases settles_resolveMode t current s r.arguments.output with
            ⟨mode, hmode, hleads, hout⟩ | ⟨e, he, hout⟩
          · rw [hmode]
            exact ⟨settles_of_given hi hm (hfiles.append hout),
              fun _ => ⟨rfl, ⟨input, hi, rfl⟩, ⟨mapping, hm, rfl⟩, hleads⟩, fun h => absurd rfl h⟩
          · rw [he]
            exact .refuse (settles_of_given hi hm (hfiles.append hout)) rfl

/-- Arguments that search for something are accepted without a look at any file. All others are
refused for the first of their demands that is not met, and then the mode stays what it was; if all
are met they are accepted, with the paths and the mode that they name. -/
theorem check_demands (t : FileTree) (current : Location) (s : Surroundings) (r : Request) :
    (∀ term, r.arguments.search = some term → ∀ {m : Type → Type} [Monad m] (look : Look m),
      r.check look s = pure ({ r with mode := .search term }, none)) ∧
    (r.arguments.search = none →
      let checked : Request × Option Refusal := r.check (t.look current) s
      let demands := r.arguments.demands t current s
      (checked.2 = none ↔ ∀ d ∈ demands, d.1) ∧
      (∀ e, checked.2 = some e ↔ FirstUnmet demands e) ∧
      (checked.2 = none → r.arguments.Names s checked.1 ∧
        checked.1.target? = r.arguments.output.map fun typed =>
          match typed with
          | none => checked.1.input
          | some typed => s.fullPath (Text.trim typed)) ∧
      (checked.2 ≠ none → checked.1.mode = r.mode)) := by
  constructor
  · intro term hs m _ look
    unfold Request.check
    simp only [hs]
  · intro hs checked demands
    have h : Checked t current s r checked.1 checked.2 := checked_check hs
    refine ⟨h.settles.eq_none_iff, fun e => h.settles.eq_some_iff, fun hn => ?_, h.refused⟩
    exact ⟨h.accepted hn, (h.accepted hn).mode.target?_eq⟩

/-- Two files at the top: a text, and a mapping whose extension is in capitals. -/
def capitals : FileTree :=
  (FileTree.empty.put [] ['t'] (.file (.text ['x']))).put [] "m.TXT".toList
    (.file (.text "x => y".toList))

/-- A request about `capitals` that was to overwrite the text before it asked for another file. -/
def capitalsRequest (output : List Char) (search : Option (List Char)) : Request where
  arguments :=
    { input := some " t".toList
      mapping := some "m.TXT".toList
      output := some (some output)
      search := search }
  mode := .overwrite
  input := ⟨[]⟩
  mapping := ⟨[]⟩

/-- The files of the request can be used, so that it is refused only for its output. -/
theorem check_capitalsRequest (output : List Char) :
    let s : Surroundings := ⟨Location.path [], none⟩
    ((capitalsRequest output none).check (capitals.look []) s : Request × Option Refusal).2 =
      match (resolveMode (capitals.look []) s (some (some output)) : Except Refusal Mode) with
      | .ok _ => none
      | .error e => some e := by
  intro s
  have hinput : (refusal? (capitals.look []) .input (s.fullPath (Text.trim " t".toList)) none :
      Option Refusal) = none := by cbv
  have hmapping : (refusal? (capitals.look []) .mapping (s.fullPath (Text.trim "m.TXT".toList))
      (some mappingExtension) : Option Refusal) = none := by cbv
  simp only [Request.check, capitalsRequest, bind, pure, hinput, hmapping]
  cases (resolveMode (capitals.look []) s (some (some output)) : Except Refusal Mode) <;> rfl

/-- With a name and an extension the output file is accepted. Without an extension it is refused,
and the text would still be overwritten. In a search it does not matter. -/
theorem check_demands_capitals :
    let s : Surroundings := ⟨Location.path [], none⟩
    let check output search : Request × Option Refusal :=
      (capitalsRequest output search).check (capitals.look []) s
    (check "o.c".toList none).2 = none ∧
    (check "o.c".toList none).1.target? = some ⟨"/o.c".toList⟩ ∧
    (check ['o'] none).2 = some .unnamedOutput ∧
    FirstUnmet ((capitalsRequest ['o'] none).arguments.demands capitals [] s) .unnamedOutput ∧
    (check ['o'] none).1.mode = .overwrite ∧
    check ['o'] (some ['t']) =
      ({ capitalsRequest ['o'] (some ['t']) with mode := .search ['t'] }, none) := by
  intro s check
  obtain ⟨-, -, hfile, -⟩ :=
    (check_demands capitals [] s (capitalsRequest "o.c".toList none)).2 rfl
  obtain ⟨-, hunmet, -, hkept⟩ :=
    (check_demands capitals [] s (capitalsRequest ['o'] none)).2 rfl
  obtain ⟨hsearch, -⟩ := check_demands capitals [] s (capitalsRequest ['o'] (some ['t']))
  have haccepted : (check "o.c".toList none).2 = none :=
    (check_capitalsRequest _).trans (by cbv)
  have hrefused : (check ['o'] none).2 = some .unnamedOutput :=
    (check_capitalsRequest _).trans (by cbv)
  have htarget := (hfile haccepted).2
  have hmode : (check ['o'] none).1.mode = .overwrite := hkept (by rw [hrefused]; simp)
  have hpath : s.fullPath (Text.trim "o.c".toList) = ⟨"/o.c".toList⟩ := by cbv
  refine ⟨haccepted, ?_, hrefused, (hunmet _).mp hrefused, hmode, hsearch _ rfl (capitals.look [])⟩
  rw [← hpath]
  exact htarget

end Remap
