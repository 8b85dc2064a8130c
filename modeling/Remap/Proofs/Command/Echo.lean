import Remap.Proofs.Command.Converting
import Remap.Proofs.Path.Steps
import Remap.Proofs.Report.Frame
import Remap.Proofs.Text.Blank
/-!
# The echoed command line

A run that reports what it does prints a command line below a heading. If there is no white space in
the paths, then this line, split at its spaces, asks for a conversion of the same files in the same
mode. Only that of a run that overwrites its input file is different: its line asks for the new text
to be printed.

Main statement: `run_echo`.
-/

namespace Remap

variable {t : FileTree} {current : Location} {home : Option Path} {commandLine : List (List Char)}
  {r : Request} {old new : List Char} {s : Surroundings} {p q : Path}

/-! ## Paths in full -/

theorem isAbsolute_fullPath (h : s.directory.isAbsolute = true) (typed : List Char) :
    (s.fullPath typed).isAbsolute = true := Path.isAbsolute_join h

/-- An absolute path without white space stands for itself. -/
theorem fullPath_trim_text (ha : p.isAbsolute = true) (hb : ∀ c ∈ p.text, Text.isBlank c = false) :
    s.fullPath (Text.trim p.text) = p := by
  obtain ⟨rest, hp⟩ := Path.isAbsolute_iff.mp ha
  rw [(Text.trimmed_of_forall hb).trim_eq]
  obtain ⟨text⟩ := p
  cases hp
  rfl

/-! ## Options -/

/-- No white space stands in the paths of a request. -/
structure Request.NoBlanks (r : Request) : Prop where
  input : ∀ c ∈ r.input.text, Text.isBlank c = false
  mapping : ∀ c ∈ r.mapping.text, Text.isBlank c = false
  output : ∀ p, r.mode = .file p → ∀ c ∈ p.text, Text.isBlank c = false

/-- The output file that the options name. -/
def Request.named? (r : Request) : Option (List Char) :=
  match r.mode with
  | .file p => some p.text
  | _ => none

/-- The options of a request as they are echoed. -/
def Request.options (r : Request) : List (List Char) :=
  Report.options r.arguments.dryRun r.input.text r.mapping.text r.named?

/-- The request that the echoed options make. -/
def Request.echo (r : Request) : Request where
  arguments :=
    { input := some r.input.text
      mapping := some r.mapping.text
      output := r.named?.map some
      dryRun := r.arguments.dryRun }
  mode := if r.mode = .overwrite then .stdout else r.mode
  input := r.input
  mapping := r.mapping

theorem parse_options (dryRun : Bool) (input mapping : List Char) (output : Option (List Char)) :
    Arguments.parse (Report.options dryRun input mapping output) =
      .ok { input := some input, mapping := some mapping, output := output.map some, dryRun } := by
  cases dryRun <;> cases output <;> rfl

/-- The echoed mode leads where the echoed options say. -/
theorem Leads.echo {output : Option (Option (List Char))} (h : Leads s output r.mode)
    (hs : s.directory.isAbsolute = true) (hb : r.NoBlanks) :
    Leads s (r.named?.map some) r.echo.mode := by
  obtain ⟨arguments, mode, input, mapping⟩ := r
  cases h with
  | stdout => exact .stdout
  | overwrite => exact .stdout
  | file typed =>
    have hpath := fullPath_trim_text (s := s) (isAbsolute_fullPath hs _) (hb.output _ rfl)
    have hleads := Leads.file (s := s) (s.fullPath (Text.trim typed)).text
    rw [hpath] at hleads
    exact hleads

/-- The echoed options ask for the request that they make. -/
theorem Asks.echo (h : Asks t current home commandLine r) (hb : r.NoBlanks) :
    Asks t current home r.options r.echo := by
  have hs : current.path.isAbsolute = true := Path.isAbsolute_iff.mpr ⟨_, rfl⟩
  have hnames : r.echo.arguments.Names ⟨current.path, home⟩ r.echo := by
    obtain ⟨-, ⟨input, -, hi⟩, ⟨mapping, -, hm⟩, hleads⟩ := h.names
    -- the paths of a request are absolute, so that they are found again as they are written
    have hi' : r.input.isAbsolute = true := hi ▸ isAbsolute_fullPath hs _
    have hm' : r.mapping.isAbsolute = true := hm ▸ isAbsolute_fullPath hs _
    exact ⟨rfl, ⟨_, rfl, (fullPath_trim_text hi' hb.input).symm⟩,
      ⟨_, rfl, (fullPath_trim_text hm' hb.mapping).symm⟩, hleads.echo hs hb⟩
  have husable : r.echo.Usable (t.look current) := by
    refine ⟨h.usable.input, h.usable.mapping, fun p hp => h.usable.output p ?_⟩
    unfold Request.echo at hp
    by_cases ho : r.mode = .overwrite
    · rw [if_pos ho] at hp
      cases hp
    · rwa [if_neg ho] at hp
  exact ⟨parse_options _ _ _ _, (resolve_eq_ok_iff rfl).mpr ⟨hnames, husable⟩, rfl⟩

/-! ## The line -/

/-- The third line of what was printed. -/
def thirdLine (out : List Char) : List Char := ((Text.splitAt (· == '\n') out)[2]?).getD []

/-- The arguments on the command line that was printed, behind the name of the program. -/
def echoed (out : List Char) : List (List Char) :=
  (Text.splitAt (· == ' ') (thirdLine out)).tail

theorem thirdLine_eq {first second third : List Char} (h1 : ∀ c ∈ first, (c == '\n') = false)
    (h2 : ∀ c ∈ second, (c == '\n') = false) (h3 : ∀ c ∈ third, (c == '\n') = false)
    (rest : List Char) :
    thirdLine (first ++ '\n' :: (second ++ '\n' :: (third ++ '\n' :: rest))) = third := by
  have hcut := Text.splitAt_append_cons (p := (· == '\n')) (beq_self_eq_true '\n')
  unfold thirdLine
  rw [hcut, hcut, hcut, Text.splitAt_of_forall h1, Text.splitAt_of_forall h2,
    Text.splitAt_of_forall h3]
  rfl

/-- No white space stands in an option if there is none in the paths. -/
theorem Request.NoBlanks.options (hb : r.NoBlanks) :
    ∀ option ∈ r.options, ∀ c ∈ option, Text.isBlank c = false := by
  unfold Request.options Report.options
  simp only [List.forall_mem_append, List.forall_mem_cons]
  refine ⟨⟨?_, ⟨?_, hb.input⟩, ⟨?_, hb.mapping⟩, by simp⟩, ?_⟩
  · cases r.arguments.dryRun <;> simp [Text.isBlank]
  · simp [Text.isBlank]
  · simp [Text.isBlank]
  · unfold Request.named?
    cases hmode : r.mode with
    | file p =>
      simp only [List.forall_mem_singleton, List.forall_mem_append]
      exact ⟨by simp [Text.isBlank], hb.output p hmode⟩
    | _ => simp

theorem Request.NoBlanks.options_ne (hb : r.NoBlanks) {d : Char} (hd : Text.isBlank d = true) :
    ∀ option ∈ r.options, ∀ c ∈ option, (c == d) = false := by
  intro option ho c hc
  have hblank := hb.options option ho c hc
  rw [beq_eq_false_iff_ne]
  rintro rfl
  rw [hd] at hblank
  cases hblank

theorem no_newline_heading (theme : Report.Theme) (dryRun : Bool) :
    ∀ c ∈ theme.paint .dim (if dryRun then "Simulating:" else "Running:").toList,
      (c == '\n') = false := by
  unfold Report.Theme.paint
  split
  · rw [Report.Style.wrap_of_not_mem (by cases dryRun <;> decide)]
    cases dryRun <;> simp [Report.escape, Report.Style.code, Report.reset]
  · cases dryRun <;> simp

/-- Below the heading stand the name of the program and the options of the request. -/
theorem thirdLine_heading (hb : r.NoBlanks) (theme : Report.Theme) (rest : List Char) :
    thirdLine (r.heading theme ++ rest) =
      "replace-text".toList ++ ' ' :: Text.join [' '] r.options := by
  -- the line has no newline, since a newline is white space and there is none in the options
  have hline : ∀ c ∈ "replace-text".toList ++ ' ' :: Text.join [' '] r.options,
      (c == '\n') = false := by
    rw [List.forall_mem_append, List.forall_mem_cons]
    refine ⟨by simp, by decide, fun c hc => ?_⟩
    rcases Text.mem_join hc with hc | ⟨option, ho, hc⟩
    · cases List.mem_singleton.mp hc
      decide
    · exact hb.options_ne (by decide) option ho c hc
  obtain ⟨below, hform⟩ : ∃ below, r.heading theme ++ rest = [] ++ '\n' :: (theme.paint .dim
      (if r.arguments.dryRun then "Simulating:" else "Running:").toList ++ '\n' ::
        (("replace-text".toList ++ ' ' :: Text.join [' '] r.options) ++ '\n' :: below)) := by
    unfold Request.heading Report.banner
    simp only [List.append_assoc]
    exact ⟨_, rfl⟩
  rw [hform, thirdLine_eq (by simp) (no_newline_heading theme _) hline]

/-- The options of a request are read off the report that begins with its heading. -/
theorem echoed_heading (hb : r.NoBlanks) (theme : Report.Theme) (rest : List Char) :
    echoed (r.heading theme ++ rest) = r.options := by
  have hne : r.options ≠ [] := by
    apply List.append_ne_nil_of_left_ne_nil
    apply List.append_ne_nil_of_right_ne_nil
    exact List.cons_ne_nil _ _
  have hcut := Text.splitAt_append_cons (p := (· == ' ')) (beq_self_eq_true ' ')
    "replace-text".toList (Text.join [' '] r.options)
  rw [echoed, thirdLine_heading hb, hcut, Text.splitAt_join hne (hb.options_ne (by decide))]
  rfl

/-! ## Runs -/

/-- A run that does not only print the new text begins its report with its heading. -/
theorem Converts.out_eq (hc : Converts t current r.input r.mapping old new)
    (h : Asks t current home commandLine r) (terminal : Terminal)
    (hr : r.arguments.dryRun = true ∨ r.target? ≠ none) :
    ∃ rest, (t.run current home terminal commandLine).2.out =
      r.heading (r.arguments.theme terminal) ++ rest := by
  cases hd : r.arguments.dryRun with
  | true =>
    obtain ⟨err, hrun⟩ := hc.run_dry h terminal hd
    exact ⟨_, by rw [hrun]⟩
  | false =>
    obtain ⟨target, ht⟩ : ∃ target, r.target? = some target :=
      Option.ne_none_iff_exists'.mp (hr.resolve_left (by simp [hd]))
    obtain ⟨sv, -, -, hout, hrun⟩ := hc.run_save h terminal hd ht
    rw [hrun]
    cases (t.save current target new).2 with
    | none => exact ⟨_, by rw [← hout]; rfl⟩
    | some e => exact ⟨[], by rw [← hout, List.append_nil]; rfl⟩

/-- The command line that a run echoes, in whose paths there is no white space, makes a request for
the same files, and in the same mode if that is not to overwrite the input file; in this mode the
echoed command line asks for the new text to be printed. -/
theorem run_echo (h : Asks t current home commandLine r) (terminal : Terminal)
    (hc : Converts t current r.input r.mapping old new)
    (hr : r.arguments.dryRun = true ∨ r.target? ≠ none) (hb : r.NoBlanks) :
    ∃ r', Asks t current home (echoed (t.run current home terminal commandLine).2.out) r' ∧
      r'.input = r.input ∧ r'.mapping = r.mapping ∧
      r'.arguments.dryRun = r.arguments.dryRun ∧
      (r.mode ≠ .overwrite → r'.mode = r.mode ∧ r'.target? = r.target?) ∧
      (r.mode = .overwrite → r'.mode = .stdout ∧ r'.target? = none) := by
  obtain ⟨rest, hout⟩ := hc.out_eq h terminal hr
  rw [hout, echoed_heading hb]
  refine ⟨r.echo, h.echo hb, rfl, rfl, rfl, fun hne => ?_, fun ho => ?_⟩
  · have hmode : r.echo.mode = r.mode := if_neg hne
    exact ⟨hmode, by simp only [Request.target?, hmode]; rfl⟩
  · have hmode : r.echo.mode = .stdout := if_pos ho
    exact ⟨hmode, by simp only [Request.target?, hmode]⟩

theorem noBlanks_twoLinesRequest (a : Arguments) (mode : Mode)
    (h : ∀ p, mode = .file p → ∀ c ∈ p.text, Text.isBlank c = false) :
    (twoLinesRequest "m.txt".toList a mode).NoBlanks where
  input := by simp [twoLinesRequest, Text.isBlank]
  mapping := by simp [twoLinesRequest, Text.isBlank]
  output := h

/-- A run that writes the new text of `twoLines` to another file echoes a command line that does the
same. -/
theorem run_echo_file :
    let line := ["-i".toList, ['t'], "-m".toList, "m.txt".toList, "-o".toList, "o.c".toList]
    let out := (twoLines.run [] none ⟨none, false⟩ line).2.out
    ∃ r', Asks twoLines [] none (echoed out) r' ∧ r'.input = ⟨"/t".toList⟩ ∧
      r'.mapping = ⟨"/m.txt".toList⟩ ∧ r'.arguments.dryRun = false ∧
      r'.mode = .file ⟨"/o.c".toList⟩ := by
  intro line out
  have hasks : Asks twoLines [] none line (twoLinesRequest "m.txt".toList
      { output := some (some "o.c".toList) } (.file ⟨"/o.c".toList⟩)) := ⟨rfl, by cbv, rfl⟩
  have hb := noBlanks_twoLinesRequest { output := some (some "o.c".toList) }
    (.file ⟨"/o.c".toList⟩) (by rintro _ ⟨⟩; simp [Text.isBlank])
  obtain ⟨r', h, hi, hm, hd, hmode, -⟩ := run_echo hasks ⟨none, false⟩ twoLines_converts
    (.inr (by decide)) hb
  exact ⟨r', h, hi, hm, hd, (hmode (by decide)).1⟩

/-- A run that overwrites the text of `twoLines` echoes a command line that does not. -/
theorem run_echo_overwrite :
    let line := ["-i".toList, ['t'], "-m".toList, "m.txt".toList, "-o".toList]
    let r := twoLinesRequest "m.txt".toList { output := some none } .overwrite
    let out := (twoLines.run [] none ⟨none, false⟩ line).2.out
    Asks twoLines [] none line r ∧ r.NoBlanks ∧ r.target? = some r.input ∧
      echoed out = ["--in=/t".toList, "--map=/m.txt".toList] ∧
      ¬ ∃ r', Asks twoLines [] none (echoed out) r' ∧ r'.mode = r.mode := by
  intro line r out
  have hasks : Asks twoLines [] none line r := ⟨rfl, by cbv, rfl⟩
  have hb : r.NoBlanks := noBlanks_twoLinesRequest _ _ (by rintro _ ⟨⟩)
  have hechoed : echoed out = r.options := by
    -- the echoed words are those of the request without its output
    obtain ⟨rest, hout⟩ := twoLines_converts.out_eq hasks ⟨none, false⟩ (.inr (by decide))
    rw [show out = _ from hout, echoed_heading hb]
  refine ⟨hasks, hb, rfl, hechoed, ?_⟩
  rintro ⟨r', hr', hmode⟩
  rw [hechoed] at hr'
  cases (hasks.echo hb).unique hr'
  cases hmode

end Remap
