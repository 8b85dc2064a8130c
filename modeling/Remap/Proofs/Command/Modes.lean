import Remap.Proofs.Command.Converting
import Remap.Proofs.Files.Rewriting
import Remap.Proofs.Report.Frame
/-!
# One text for all modes

Where a conversion fails, a run says so in the same way whatever it was asked to do with the new
text. Where it succeeds, the text that is printed, the text that is saved, the text in the frame and
the text that the differences lead to are one and the same.

Main statement: `run_modes`.
-/

namespace Remap

open Report (opening closing framed unframe)

variable {t : FileTree} {current : Location} {home : Option Path} {commandLine : List (List Char)}
  {r : Request} {input mapping : Path} {old new : List Char}

/-! ## Conversions -/

/-- One of the two files is no text, or the rules in the one cannot be read. -/
inductive Unconvertible (t : FileTree) (current : Location) (input mapping : Path) : Prop
  | input : t.read current input = .error .notText → Unconvertible t current input mapping
  | mapping : t.read current mapping = .error .notText → Unconvertible t current input mapping
  | rules {text rules : List Char} {e : InvalidLine} : t.read current input = .ok text →
      t.read current mapping = .ok rules → computeOutput text rules = .error e →
      Unconvertible t current input mapping

theorem Unconvertible.convert_eq (h : Unconvertible t current input mapping) :
    ∃ e, (convert (t.look current) input mapping : Attempt).result = .error e := by
  rcases convert_cases (t.look current) input mapping with ⟨_, -, hc⟩ | ⟨_, -, hc⟩ |
    ⟨_, _, -, -, hc⟩ | ⟨text, rules, new, ht, hr, hn, -⟩
  · exact ⟨_, hc⟩
  · exact ⟨_, hc⟩
  · exact ⟨_, hc⟩
  · cases h with
    | input h => cases h.symm.trans ht
    | mapping h => cases h.symm.trans hr
    | rules ht' hr' he =>
      cases ht.symm.trans ht'
      cases hr.symm.trans hr'
      cases hn.symm.trans he

theorem read_of_usable {p : Path} {extension : Option (List Char)}
    (h : (fileProblem? (t.look current) p extension : Option FileProblem) = none) :
    (∃ text, t.read current p = .ok text) ∨ t.read current p = .error .notText := by
  unfold fileProblem? at h
  simp only [bind, pure] at h
  split at h
  · cases h
  next hsome =>
    split at h
    · cases h
    next hdir =>
      have hleads : t.leadsSomewhere current p = true := by
        have : (!t.leadsSomewhere current p) ≠ true := hsome
        simpa using this
      have hfile : t.isDirectory current p ≠ true := hdir
      exact FileTree.read_of_file hleads (by simpa using hfile)

/-- Files whose paths can be used either have texts to convert or have not. -/
theorem Asks.converts (h : Asks t current home commandLine r) :
    Unconvertible t current r.input r.mapping ∨
      ∃ old new, Converts t current r.input r.mapping old new := by
  rcases read_of_usable h.usable.input with ⟨old, hi⟩ | hi
  · rcases read_of_usable h.usable.mapping with ⟨rules, hm⟩ | hm
    · cases hn : computeOutput old rules with
      | error e => exact .inl (.rules hi hm hn)
      | ok new => exact .inr ⟨old, new, rules, hi, hm, hn⟩
    · exact .inl (.mapping hm)
  · exact .inl (.input hi)

/-! ## Modes -/

/-- A run ends as its request asks for: it prints the new text, or saves it, or shows the first
lines of it in a frame, or how it differs from the old text. -/
structure Shows (t : FileTree) (current : Location) (s : Surroundings) (theme : Report.Theme)
    (r : Request) (old new : List Char) (after : FileTree) (e : Exit) : Prop where
  stdout : r.arguments.dryRun = false → r.arguments.output = none →
    after = t ∧ e.status = 0 ∧ e.out = new
  overwrite : r.arguments.dryRun = false → r.arguments.output = some none →
    e.status = 0 ∧ after.read current r.input = .ok new
  file : r.arguments.dryRun = false → ∀ typed, r.arguments.output = some (some typed) →
    e.status = 0 → after.read current (s.fullPath (Text.trim typed)) = .ok new
  sample : r.arguments.dryRun = true → r.arguments.diff = false →
    after = t ∧ e.status = 0 ∧
      let pieces := Text.splitAt (· == '\n') new
      let body := framed theme (pieces.take r.arguments.lines)
      e.out = r.heading theme ++ opening theme ++ body ++ closing theme ++ ['\n'] ∧
        (pieces.length ≤ r.arguments.lines → unframe body = new)
  diff : r.arguments.dryRun = true → r.arguments.diff = true →
    after = t ∧ e.status = 0 ∧ e.out = r.heading theme ++ Report.diff theme old new

theorem Converts.shows (hc : Converts t current r.input r.mapping old new)
    (h : Asks t current home commandLine r) (terminal : Terminal) :
    let run := t.run current home terminal commandLine
    Shows t current ⟨current.path, home⟩ (r.arguments.theme terminal) r old new run.1 run.2 := by
  intro run
  have htarget := h.names.mode.target?_eq
  constructor
  case stdout =>
    intro hd ho
    have ht : r.target? = none := by rw [htarget, ho]; rfl
    obtain ⟨err, hrun⟩ := hc.run_stdout h terminal hd ht
    rw [show run = _ from hrun]
    exact ⟨rfl, rfl, rfl⟩
  case overwrite =>
    intro hd ho
    have ht : r.target? = some r.input := by rw [htarget, ho]; rfl
    obtain ⟨sv, -, -, -, hrun⟩ := hc.run_save h terminal hd ht
    -- the input file was read, so that it can be written
    obtain ⟨rules, hi, -, -⟩ := hc
    obtain ⟨after, hsave⟩ := FileTree.save_of_read hi new
    rw [show run = _ from hrun, hsave]
    exact ⟨rfl, FileTree.read_of_save hsave⟩
  case file =>
    intro hd typed ho h0
    generalize htyped : Surroundings.fullPath ⟨current.path, home⟩ (Text.trim typed) = target
    have ht : r.target? = some target := by rw [htarget, ho, ← htyped]; rfl
    obtain ⟨sv, -, -, -, hrun⟩ := hc.run_save h terminal hd ht
    rw [show run = _ from hrun] at h0 ⊢
    -- the run has ended well only if the text was saved
    cases hsave : t.save current target new with
    | mk after problem =>
      rw [hsave] at h0
      cases problem with
      | some e => cases h0
      | none => exact FileTree.read_of_save hsave
  case sample =>
    intro hd hdiff
    obtain ⟨err, hrun⟩ := hc.run_dry h terminal hd
    rw [show run = _ from hrun]
    refine ⟨rfl, rfl, ?_, ?_⟩
    · simp only [Request.preview, hdiff, Report.sample_eq, List.append_assoc]
      rfl
    · intro hn
      rw [List.take_of_length_le hn]
      exact Report.unframe_framed_splitAt (Report.bar_ofTerminal _ _) new
  case diff =>
    intro hd hdiff
    obtain ⟨err, hrun⟩ := hc.run_dry h terminal hd
    rw [show run = _ from hrun]
    refine ⟨rfl, rfl, ?_⟩
    simp only [Request.preview, hdiff]
    rfl

/-- For an input and a mapping whose paths can be used: if there is nothing to convert, or no way to
convert it, then every run says so with one and the same message. Otherwise every run shows or saves
one and the same text. -/
theorem run_modes (t : FileTree) (current : Location) (input mapping : Path) :
    (Unconvertible t current input mapping → ∃ e : ConversionError,
      ∀ home terminal commandLine r, Asks t current home commandLine r →
        r.input = input → r.mapping = mapping →
          t.run current home terminal commandLine =
            (t, { status := 1
                  err := r.log (t.look current) ++
                    failureReport (r.arguments.theme terminal) e.message })) ∧
    (∀ old new, Converts t current input mapping old new →
      ∀ home terminal commandLine r, Asks t current home commandLine r →
        r.input = input → r.mapping = mapping →
          let run := t.run current home terminal commandLine
          Shows t current ⟨current.path, home⟩ (r.arguments.theme terminal) r old new
            run.1 run.2) ∧
    (∀ home commandLine r, Asks t current home commandLine r → r.input = input →
      r.mapping = mapping → Unconvertible t current input mapping ∨
        ∃ old new, Converts t current input mapping old new) := by
  -- the error is found from the files alone, before any command line is given
  refine ⟨fun hu => ?_, ?_, ?_⟩
  · obtain ⟨e, he⟩ := hu.convert_eq
    refine ⟨e, ?_⟩
    rintro home terminal commandLine r h rfl rfl
    exact run_of_exit ((h.plan_eq terminal).trans (plan_of_error h.ne_search he))
  · rintro old new hc home terminal commandLine r h rfl rfl
    exact hc.shows h terminal
  · rintro home commandLine r h rfl rfl
    exact h.converts

/-- The new text is saved in the place of the old one, or shown behind bars; and a mapping that
cannot be read is reported alike in both modes. -/
theorem run_modes_twoLines :
    let run more := twoLines.run [] none ⟨none, false⟩ ("-i".toList :: ['t'] :: "-m".toList :: more)
    let theme := Report.Theme.ofTerminal none false
    let body := "│a\n│c\n│\n".toList
    (run ["m.txt".toList, "-o".toList]).1.read [] ⟨"/t".toList⟩ = .ok "a\nc\n".toList ∧
    (run ["m.txt".toList, "-d".toList]).1 = twoLines ∧
    (∃ heading, (run ["m.txt".toList, "-d".toList]).2.out =
      heading ++ opening theme ++ body ++ closing theme ++ ['\n']) ∧
    unframe body = "a\nc\n".toList ∧
    run ["n.txt".toList, "-o".toList] = run ["n.txt".toList, "-d".toList] := by
  intro run theme body
  have hasks : ∀ mapping a mode more, _ → _ → _ → Asks twoLines [] none
      ("-i".toList :: ['t'] :: "-m".toList :: mapping :: more) (twoLinesRequest mapping a mode) :=
    fun _ _ _ _ h h' h'' => ⟨h, h', h''⟩
  have hmodes := run_modes twoLines [] ⟨"/t".toList⟩
  -- with the mapping
  have hshows := (hmodes ⟨"/m.txt".toList⟩).2.1 _ _ twoLines_converts none ⟨none, false⟩
  have hsave := hshows _ _ (hasks "m.txt".toList { output := some none } .overwrite ["-o".toList]
    rfl (by cbv) rfl) rfl rfl
  have hdry := hshows _ _ (hasks "m.txt".toList { dryRun := true } .stdout ["-d".toList]
    rfl (by cbv) rfl) rfl rfl
  have hpieces : Text.splitAt (· == '\n') "a\nc\n".toList = [['a'], ['c'], []] := by decide
  obtain ⟨hsame, -, hout, hback⟩ := hdry.sample rfl rfl
  rw [hpieces] at hout hback
  -- with the file that is none
  have hi : twoLines.read [] ⟨"/t".toList⟩ = .ok "a\nb\n".toList := by cbv
  have hn : twoLines.read [] ⟨"/n.txt".toList⟩ = .ok ['b'] := by cbv
  have hwrong : computeOutput "a\nb\n".toList ['b'] = .error ⟨1, ['b']⟩ := by cbv
  obtain ⟨e, he⟩ := (hmodes ⟨"/n.txt".toList⟩).1 (.rules hi hn hwrong)
  have hsave' := he _ ⟨none, false⟩ _ _ (hasks "n.txt".toList { output := some none } .overwrite
    ["-o".toList] rfl (by cbv) rfl) rfl rfl
  have hdry' := he _ ⟨none, false⟩ _ _ (hasks "n.txt".toList { dryRun := true } .stdout
    ["-d".toList] rfl (by cbv) rfl) rfl rfl
  exact ⟨(hsave.overwrite rfl rfl).2, hsame, ⟨_, hout⟩, hback (by decide),
    hsave'.trans hdry'.symm⟩

end Remap
