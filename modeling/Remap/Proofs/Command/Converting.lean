import Mathlib
import Remap.Proofs.Command.Plan
/-!
# Runs that convert

A command line that asks for a conversion makes one request. If its two files have texts to convert,
then a run ends in one of three ways: a dry run shows the conversion, a run without a target prints
the new text, and any other one saves it.

Main statements: `Converts.run_dry`, `Converts.run_stdout` and `Converts.run_save`.
-/

namespace Remap

variable {t : FileTree} {current : Location} {home : Option Path} {terminal : Terminal}
  {commandLine : List (List Char)} {r : Request} {input mapping : Path} {old new : List Char}

/-! ## Requests to convert -/

/-- A command line asks for a conversion: it is well formed, its paths can be used, and it does not
ask for a search. -/
structure Asks (t : FileTree) (current : Location) (home : Option Path)
    (commandLine : List (List Char)) (r : Request) : Prop where
  parsed : Arguments.parse commandLine = .ok r.arguments
  resolved : (r.arguments.resolve (t.look current) ⟨current.path, home⟩ :
    Except Refusal Request) = .ok r
  converting : r.arguments.search = none

namespace Asks

theorem names (h : Asks t current home commandLine r) :
    r.arguments.Names ⟨current.path, home⟩ r :=
  ((resolve_eq_ok_iff h.converting).mp h.resolved).1

theorem usable (h : Asks t current home commandLine r) : r.Usable (t.look current) :=
  ((resolve_eq_ok_iff h.converting).mp h.resolved).2

theorem plan_eq (h : Asks t current home commandLine r) (terminal : Terminal) :
    (plan (t.look current) ⟨current.path, home⟩ terminal commandLine : Plan) =
      r.plan (t.look current) ⟨current.path, home⟩ (r.arguments.theme terminal) := by
  unfold plan
  rw [h.parsed]
  simp only [bind, h.resolved]

/-- A command line makes one request at most. -/
theorem unique {r' : Request} (h : Asks t current home commandLine r)
    (h' : Asks t current home commandLine r') : r = r' := by
  have ha : r.arguments = r'.arguments := Except.ok.inj (h.parsed.symm.trans h'.parsed)
  have hr := h.resolved
  rw [ha, h'.resolved] at hr
  exact (Except.ok.inj hr).symm

theorem ne_search (h : Asks t current home commandLine r) (term : List Char) :
    r.mode ≠ .search term := h.names.mode.ne_search

end Asks

/-! ## Runs -/

theorem run_of_exit {e : Exit}
    (h : (plan (t.look current) ⟨current.path, home⟩ terminal commandLine : Plan) = .exit e) :
    t.run current home terminal commandLine = (t, e) := by
  unfold FileTree.run
  rw [h]

theorem run_of_save {sv : Saving}
    (h : (plan (t.look current) ⟨current.path, home⟩ terminal commandLine : Plan) = .save sv) :
    t.run current home terminal commandLine =
      ((t.save current sv.target sv.text).1, sv.exit (t.save current sv.target sv.text).2) := by
  unfold FileTree.run
  rw [h]

/-- The text of the input file, and what the rules of the mapping file make of it. -/
def Converts (t : FileTree) (current : Location) (input mapping : Path) (old new : List Char) :
    Prop :=
  ∃ rules, t.read current input = .ok old ∧ t.read current mapping = .ok rules ∧
    computeOutput old rules = .ok new

theorem Converts.convert_eq (h : Converts t current input mapping old new) :
    (convert (t.look current) input mapping : Attempt).result = .ok ⟨old, new⟩ := by
  obtain ⟨rules, hi, hm, hn⟩ := h
  rw [convert_result hi hm, hn]
  rfl

theorem Converts.plan_eq (hc : Converts t current r.input r.mapping old new)
    (h : Asks t current home commandLine r) (terminal : Terminal) :
    (plan (t.look current) ⟨current.path, home⟩ terminal commandLine : Plan) =
      r.deliver (r.arguments.theme terminal) ⟨old, new⟩ (r.log (t.look current)) :=
  (h.plan_eq terminal).trans (plan_of_ok _ _ h.ne_search hc.convert_eq)

/-- A dry run shows the conversion and changes nothing. -/
theorem Converts.run_dry (hc : Converts t current r.input r.mapping old new)
    (h : Asks t current home commandLine r) (terminal : Terminal)
    (hd : r.arguments.dryRun = true) :
    ∃ err, t.run current home terminal commandLine =
      (t, { status := 0, out := r.heading (r.arguments.theme terminal) ++
        r.preview (r.arguments.theme terminal) ⟨old, new⟩, err := err }) := by
  have hplan := hc.plan_eq h terminal
  unfold Request.deliver at hplan
  rw [if_pos hd] at hplan
  exact ⟨_, run_of_exit hplan⟩

/-- A run that has nothing to save prints the new text. -/
theorem Converts.run_stdout (hc : Converts t current r.input r.mapping old new)
    (h : Asks t current home commandLine r) (terminal : Terminal)
    (hd : r.arguments.dryRun = false) (ht : r.target? = none) :
    ∃ err, t.run current home terminal commandLine =
      (t, { status := 0, out := new, err := err }) := by
  have hplan := hc.plan_eq h terminal
  unfold Request.deliver at hplan
  rw [if_neg (by simp [hd]), ht] at hplan
  exact ⟨_, run_of_exit hplan⟩

/-- Any other run saves it. -/
theorem Converts.run_save (hc : Converts t current r.input r.mapping old new)
    (h : Asks t current home commandLine r) (terminal : Terminal)
    (hd : r.arguments.dryRun = false) {target : Path} (ht : r.target? = some target) :
    ∃ sv : Saving, sv.target = target ∧ sv.text = new ∧
      sv.out = r.heading (r.arguments.theme terminal) ∧
      t.run current home terminal commandLine =
        ((t.save current target new).1, sv.exit (t.save current target new).2) := by
  have hplan := hc.plan_eq h terminal
  unfold Request.deliver at hplan
  rw [if_neg (by simp [hd]), ht] at hplan
  exact ⟨_, rfl, rfl, rfl, run_of_save hplan⟩

/-! ## A text of two lines -/

/-- A text of two lines, a mapping for it, and a file that is no mapping. -/
def twoLines : FileTree :=
  ((FileTree.empty.put [] ['t'] (.file (.text "a\nb\n".toList))).put [] "m.txt".toList
    (.file (.text "b => c".toList))).put [] "n.txt".toList (.file (.text ['b']))

/-- A request to convert the text of `twoLines`. -/
def twoLinesRequest (mapping : List Char) (a : Arguments) (mode : Mode) : Request :=
  ⟨{ a with input := some ['t'], mapping := some mapping }, mode, ⟨['/', 't']⟩, ⟨'/' :: mapping⟩⟩

theorem twoLines_converts : Converts twoLines [] ⟨"/t".toList⟩ ⟨"/m.txt".toList⟩ "a\nb\n".toList
    "a\nc\n".toList := ⟨"b => c".toList, by cbv, by cbv, by cbv⟩

end Remap
