import Mathlib
import Remap.Proofs.Command.Plan
import Remap.Proofs.Files.Saving
/-!
# What a run does to the files

A run leaves the files alone when its command line is refused, when it only searches or shows, and
when there is nothing to convert. Otherwise it saves one text: the text of the input file after the
rules of the mapping file, both as they were before the run.

Main statement: `run_effect`.
-/

namespace Remap

variable {t : FileTree} {current : Location} {s : Surroundings} {terminal : Terminal}
  {commandLine : List (List Char)} {a : Arguments} {r : Request}

/-- The requests that arguments can make. -/
theorem cases_of_resolve {look : Look Id}
    (h : (a.resolve look s : Except Refusal Request) = .ok r) :
    (∃ term, a.search = some term ∧ r.mode = .search term) ∨
      (a.search = none ∧ a.Names s r) := by
  cases hs : a.search with
  | some term =>
    rw [resolve_eq_ok_iff_check] at h
    unfold Request.check Arguments.unchecked at h
    simp only [hs] at h
    cases h
    exact .inl ⟨term, rfl, rfl⟩
  | none => exact .inr ⟨rfl, ((resolve_eq_ok_iff hs).mp h).1⟩

/-! ## Plans -/

/-- Why a run leaves the files alone. -/
inductive Spared (t : FileTree) (current : Location) (s : Surroundings)
    (commandLine : List (List Char)) : Prop
  /-- The command line is not well formed. -/
  | usage {e : UsageError} : Arguments.parse commandLine = .error e → Spared t current s commandLine
  /-- The arguments make no request. -/
  | refused {a : Arguments} {e : Refusal} : Arguments.parse commandLine = .ok a →
      (a.resolve (t.look current) s : Except Refusal Request) = .error e →
      Spared t current s commandLine
  | search {a : Arguments} {term : List Char} : Arguments.parse commandLine = .ok a →
      a.search = some term → Spared t current s commandLine
  | dryRun {a : Arguments} : Arguments.parse commandLine = .ok a → a.dryRun = true →
      Spared t current s commandLine
  | stdout {a : Arguments} : Arguments.parse commandLine = .ok a → a.output = none →
      Spared t current s commandLine
  /-- The input file cannot be read. -/
  | input {a : Arguments} {input : List Char} {e : FileError} :
      Arguments.parse commandLine = .ok a → a.input = some input →
      t.read current (s.fullPath (Text.trim input)) = .error e → Spared t current s commandLine
  /-- The mapping file cannot be read. -/
  | mapping {a : Arguments} {mapping : List Char} {e : FileError} :
      Arguments.parse commandLine = .ok a → a.mapping = some mapping →
      t.read current (s.fullPath (Text.trim mapping)) = .error e → Spared t current s commandLine
  /-- The mapping file has a line that is no rule. -/
  | invalid {a : Arguments} {mapping rules : List Char} {e : InvalidLine} :
      Arguments.parse commandLine = .ok a →
      a.mapping = some mapping →
      t.read current (s.fullPath (Text.trim mapping)) = .ok rules →
      Mapping.parse rules = .error e → Spared t current s commandLine

/-- What a command line wants to have saved: the text of the input file after the rules of the
mapping file, in the input file itself or in the one that is named for it. -/
def Wants (t : FileTree) (current : Location) (s : Surroundings) (commandLine : List (List Char))
    (target : Path) (new : List Char) : Prop :=
  ∃ a input mapping text rules,
    Arguments.parse commandLine = .ok a ∧ a.input = some input ∧ a.mapping = some mapping ∧
    t.read current (s.fullPath (Text.trim input)) = .ok text ∧
    t.read current (s.fullPath (Text.trim mapping)) = .ok rules ∧
    computeOutput text rules = .ok new ∧
    (a.output = some none ∧ target = s.fullPath (Text.trim input) ∨
      ∃ typed, a.output = some (some typed) ∧ target = s.fullPath (Text.trim typed))

theorem not_spared {r : Request} {input mapping text rules new : List Char}
    (hp : Arguments.parse commandLine = .ok a)
    (hr : (a.resolve (t.look current) s : Except Refusal Request) = .ok r)
    (hs : a.search = none) (hd : a.dryRun = false) (ho : a.output ≠ none)
    (hi : a.input = some input) (hm : a.mapping = some mapping)
    (ht : t.read current (s.fullPath (Text.trim input)) = .ok text)
    (hrules : t.read current (s.fullPath (Text.trim mapping)) = .ok rules)
    (hn : computeOutput text rules = .ok new) : ¬ Spared t current s commandLine := by
  intro h
  -- each way to be spared contradicts one of the hypotheses, once both speak of the same arguments
  cases h with
  | usage h => rw [hp] at h; cases h
  | refused h he => cases hp.symm.trans h; rw [hr] at he; cases he
  | search h he => cases hp.symm.trans h; rw [hs] at he; cases he
  | dryRun h he => cases hp.symm.trans h; rw [hd] at he; cases he
  | stdout h he => cases hp.symm.trans h; exact ho he
  | input h hi' he =>
    cases hp.symm.trans h
    cases hi.symm.trans hi'
    rw [ht] at he
    cases he
  | mapping h hm' he =>
    cases hp.symm.trans h
    cases hm.symm.trans hm'
    rw [hrules] at he
    cases he
  | invalid h hm' hr' he =>
    cases hp.symm.trans h
    cases hm.symm.trans hm'
    cases hrules.symm.trans hr'
    rw [computeOutput, he] at hn
    cases hn

/-- A conversion is saved if it has a target and the run is no dry one. -/
theorem cases_of_deliver (r : Request) (theme : Report.Theme) (c : Conversion) (log : List Char) :
    (∃ x, r.deliver theme c log = .exit x ∧ (r.arguments.dryRun = true ∨ r.target? = none)) ∨
    (∃ sv, r.deliver theme c log = .save sv ∧ r.arguments.dryRun = false ∧
      r.target? = some sv.target ∧ sv.text = c.output) := by
  unfold Request.deliver
  cases hd : r.arguments.dryRun with
  | true => exact .inl ⟨_, rfl, .inl rfl⟩
  | false =>
    cases ht : r.target? with
    | none => exact .inl ⟨_, rfl, .inr rfl⟩
    | some target => exact .inr ⟨_, rfl, rfl, rfl, rfl⟩

/-- A run either ends without saving, for one of the reasons to do so, or saves what the command
line wants to have saved. -/
theorem cases_of_plan (t : FileTree) (current : Location) (s : Surroundings) (terminal : Terminal)
    (commandLine : List (List Char)) :
    (∃ e, (plan (t.look current) s terminal commandLine : Plan) = .exit e ∧
      Spared t current s commandLine) ∨
    (∃ sv, (plan (t.look current) s terminal commandLine : Plan) = .save sv ∧
      ¬ Spared t current s commandLine ∧ Wants t current s commandLine sv.target sv.text) := by
  unfold plan
  -- the steps of `plan` in their order; each that ends the run is a constructor of `Spared`
  cases hp : Arguments.parse commandLine with
  | error e => exact .inl ⟨_, rfl, .usage hp⟩
  | ok a =>
    simp only [bind, pure]
    cases hr : (a.resolve (t.look current) s : Except Refusal Request) with
    | error e => exact .inl ⟨_, rfl, .refused hp hr⟩
    | ok r =>
      obtain ⟨term, hs, hmode⟩ |
        ⟨hs, ⟨ha, ⟨input, hi, hri⟩, ⟨mapping, hm, hrm⟩, hl⟩⟩ := cases_of_resolve hr
      · obtain ⟨x, hx⟩ := plan_of_search hmode
        exact .inl ⟨x, hx, .search hp hs⟩
      rcases convert_cases (t.look current) r.input r.mapping with ⟨e, he, hc⟩ | ⟨e, he, hc⟩ |
        ⟨rules, e, hrules, he, hc⟩ | ⟨text, rules, new, ht, hrules, hn, hc⟩
      · exact .inl ⟨_, plan_of_error (fun _ => hl.ne_search) hc, .input hp hi (hri ▸ he)⟩
      · exact .inl ⟨_, plan_of_error (fun _ => hl.ne_search) hc, .mapping hp hm (hrm ▸ he)⟩
      · exact .inl ⟨_, plan_of_error (fun _ => hl.ne_search) hc, .invalid hp hm (hrm ▸ hrules) he⟩
      have hplan := plan_of_ok s (a.theme terminal) (fun _ => hl.ne_search) hc
      rw [hri] at ht
      rw [hrm] at hrules
      rcases cases_of_deliver r (a.theme terminal) ⟨text, new⟩ (r.log (t.look current)) with
        ⟨x, hx, hd | htar⟩ | ⟨sv, hsv, hd, htar, htext⟩
      · exact .inl ⟨x, hplan.trans hx, .dryRun hp (ha ▸ hd)⟩
      · exact .inl ⟨x, hplan.trans hx, .stdout hp (hl.target_eq_none htar)⟩
      -- what is left is saved, and no reason to be spared applies to it
      have htarget := hl.target htar
      refine .inr ⟨sv, hplan.trans hsv, ?_, ?_⟩
      · refine not_spared hp hr hs (ha ▸ hd) ?_ hi hm ht hrules hn
        intro ho
        rcases htarget with ⟨h, -⟩ | ⟨_, h, -⟩ <;> simp [ho] at h
      · exact ⟨a, input, mapping, text, rules, hp, hi, hm, ht, hrules, htext ▸ hn, hri ▸ htarget⟩

/-! ## Runs -/

/-- A run leaves the files alone if there is a reason to. Otherwise, if it succeeds, it has saved
the new text in the target and has changed nothing else. -/
theorem run_effect (t : FileTree) (current : Location) (home : Option Path) (terminal : Terminal)
    (commandLine : List (List Char)) :
    let s : Surroundings := ⟨current.path, home⟩
    let run := t.run current home terminal commandLine
    (Spared t current s commandLine → run.1 = t) ∧
    (¬ Spared t current s commandLine → run.2.status = 0 →
      ∃ target new place, Wants t current s commandLine target new ∧
        t.Saved run.1 current target new place) := by
  intro s run
  rcases cases_of_plan t current s terminal commandLine with ⟨e, hp, hs⟩ | ⟨sv, hp, hs, hw⟩
  · have hrun : run = (t, e) := by
      show FileTree.run _ _ _ _ _ = _
      unfold FileTree.run
      rw [hp]
    exact ⟨fun _ => by rw [hrun], fun h => absurd hs h⟩
  -- a failed save ends with another status, so that only the tree of a complete one is left
  · refine ⟨fun h => absurd h hs, fun _ h0 => ?_⟩
    cases hsave : t.save current sv.target sv.text with
    | mk after problem =>
      have hrun : run = (after, sv.exit problem) := by
        show FileTree.run _ _ _ _ _ = _
        unfold FileTree.run
        rw [hp]
        simp only [hsave]
      rw [hrun] at h0 ⊢
      cases problem with
      | some e => cases h0
      | none =>
        obtain ⟨place, hsaved⟩ := FileTree.saved_save hsave
        exact ⟨sv.target, sv.text, place, hw, hsaved⟩

/-- Two files at the top: a text and a mapping. -/
def sampleTree : FileTree :=
  (FileTree.empty.put [] ['t'] (.file (.text ['x']))).put [] "m.txt".toList
    (.file (.text "x => y".toList))

/-- The arguments that ask for the text to be written into a directory that is missing. -/
def sampleArguments : Arguments where
  input := some ['t']
  mapping := some "m.txt".toList
  output := some (some "d/o.c".toList)

def sampleLine : List (List Char) :=
  ["-i".toList, ['t'], "-m".toList, "m.txt".toList, "-o".toList, "d/o.c".toList]

/-- The new text is saved, and with it the directory; in a dry run nothing changes. -/
theorem run_effect_sample :
    ¬ Spared sampleTree [] ⟨Location.path [], none⟩ sampleLine ∧
    (sampleTree.run [] none ⟨none, false⟩ sampleLine).2.status = 0 ∧
    (∃ target new place, Wants sampleTree [] ⟨Location.path [], none⟩ sampleLine target new ∧
      sampleTree.Saved (sampleTree.run [] none ⟨none, false⟩ sampleLine).1 [] target new place) ∧
    Spared sampleTree [] ⟨Location.path [], none⟩ (sampleLine ++ ["-d".toList]) ∧
    (sampleTree.run [] none ⟨none, false⟩ (sampleLine ++ ["-d".toList])).1 = sampleTree := by
  let s : Surroundings := ⟨Location.path [], none⟩
  have hp : Arguments.parse sampleLine = .ok sampleArguments := rfl
  have hr : (sampleArguments.resolve (sampleTree.look []) s : Except Refusal Request) =
      .ok ⟨sampleArguments, .file ⟨"/d/o.c".toList⟩, ⟨"/t".toList⟩, ⟨"/m.txt".toList⟩⟩ := by cbv
  have ht : sampleTree.read [] (s.fullPath (Text.trim ['t'])) = .ok ['x'] := by cbv
  have hm : sampleTree.read [] (s.fullPath (Text.trim "m.txt".toList)) =
      .ok "x => y".toList := by cbv
  have hn : computeOutput ['x'] "x => y".toList = .ok ['y'] := by cbv
  have hspared := not_spared hp hr rfl rfl (by decide) rfl rfl ht hm hn
  have hstatus : (sampleTree.run [] none ⟨none, false⟩ sampleLine).2.status = 0 := by cbv
  have hdry : Spared sampleTree [] ⟨Location.path [], none⟩ (sampleLine ++ ["-d".toList]) :=
    .dryRun (a := { sampleArguments with dryRun := true }) rfl rfl
  have heffect := run_effect sampleTree [] none ⟨none, false⟩ sampleLine
  have hsame := run_effect sampleTree [] none ⟨none, false⟩ (sampleLine ++ ["-d".toList])
  exact ⟨hspared, hstatus, heffect.2 hspared hstatus, hdry, hsame.1 hdry⟩

end Remap
