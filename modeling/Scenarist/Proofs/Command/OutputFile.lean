/-
  The output file — a run writes the file it is asked for, and nothing else.

  1. **What is asked for (`WritesTo`)** — only a conversion to a path is, that neither checks nor shows
     the outline, and only once its settings and its source are there.

  2. **The plan** — there are many ways to the end of a run, and all but that one have no output
     (`output_plan_iff`).  With an output the exit code is that of the conversion, and that is never 2.

  3. **The run** — the output is written, or it cannot be and the exit code is 2.  So a run that ends
     with 2 has changed nothing, and any other has changed the one file at most
     (`run_writes_output_only`).  The tree is closed, so this tells nothing of absolute paths and of
     paths that lead above its root: they lead to nothing, for reading and for writing.
-/
import Scenarist.Proofs.Command.Conversion

namespace Scenarist.Command

variable {files : Entry} {stdin : Option Text} {args : List Text} {settings : Settings}
  {source path text : Text} {r : ConvertRequest} {find : Lookup}

/-! ## The plan -/

/-- What a run is asked to write, and where: the arguments are those of a conversion to a path, without
`--check` and `--outline`, its settings load and its source can be read.  The text is the one that the
library renders, and one line feed. -/
def WritesTo (files : Entry) (stdin : Option Text) (args : List Text) (path text : Text) : Prop :=
  ∃ config r settings source,
    parseArguments args = .ok ⟨config, .convert r⟩ ∧
    r.check = false ∧ r.outline = false ∧ r.output = some path ∧
    Settings.load files.find config = .ok settings ∧
    sourceOf files.find stdin r.file = .ok source ∧
    text = Alignment.render (outlineOf settings.options source) (settings.align && !r.noAlign)
      ++ ['\n']

theorem output_testPlan (find : Lookup) (settings : Settings) (r : TestRequest) :
    (testPlan find settings r).output = none := by
  unfold testPlan
  split
  · rfl
  · dsimp only
    split <;> rfl

/-- Showing the outline writes no file. -/
theorem output_convertPlan_outline (houtline : r.outline = true) :
    (convertPlan find stdin settings r).output = none := by
  have houtcome : ∀ outline stderr, (convertOutcome settings r outline stderr).output = none := by
    intro outline stderr
    rw [convertOutcome, if_pos houtline]
  unfold convertPlan
  cases sourceOf find stdin r.file with
  | error e => rfl
  | ok source =>
    dsimp only
    split
    · exact houtcome ..
    · exact houtcome ..

/-- A conversion without an outline has its feature as output, if there is a path for it. -/
theorem output_convertPlan (houtline : r.outline = false)
    (hsource : sourceOf find stdin r.file = .ok source) :
    (convertPlan find stdin settings r).output
      = if r.check then none else r.output.map fun path => (path, featureText settings r.noAlign source)
    := by
  have hvisible : (convertPlan find stdin settings r).visible = conversion settings r source :=
    visible_convertPlan houtline hsource
  refine (congrArg (fun v => v.2.2) hvisible).trans ?_
  unfold conversion
  cases r.check <;> cases r.output <;> rfl

theorem exit_convertPlan (houtline : r.outline = false)
    (hsource : sourceOf find stdin r.file = .ok source) :
    (convertPlan find stdin settings r).outcome.exit = exitCode settings source := by
  have hvisible : (convertPlan find stdin settings r).visible = conversion settings r source :=
    visible_convertPlan houtline hsource
  refine (congrArg Prod.fst hvisible).trans ?_
  unfold conversion
  cases r.check <;> cases r.output <;> rfl

theorem exitCode_ne_two (settings : Settings) (source : Text) : exitCode settings source ≠ 2 := by
  unfold exitCode
  split <;> decide

theorem plan_convert {config : Option Text} (hparse : parseArguments args = .ok ⟨config, .convert r⟩)
    (hload : Settings.load find config = .ok settings) :
    plan find stdin args = convertPlan find stdin settings r := by
  rw [plan, hparse]
  show Request.plan find stdin ⟨config, .convert r⟩ = _
  rw [Request.plan, hload]

theorem plan_test {config : Option Text} {t : TestRequest}
    (hparse : parseArguments args = .ok ⟨config, .test t⟩)
    (hload : Settings.load find config = .ok settings) :
    plan find stdin args = testPlan find settings t := by
  rw [plan, hparse]
  show Request.plan find stdin ⟨config, .test t⟩ = _
  rw [Request.plan, hload]

/-- **The plan** has an output exactly if the run is asked to write it. -/
theorem output_plan_iff :
    (plan files.find stdin args).output = some (path, text) ↔ WritesTo files stdin args path text := by
  constructor
  · intro h
    -- each thing that ends a run before the output stands in the way of the one output there is
    cases hparse : parseArguments args with
    | error stop =>
      rw [plan, hparse] at h
      cases stop <;> cases h
    | ok request =>
      obtain ⟨config, task⟩ := request
      cases hload : Settings.load files.find config with
      | error e =>
        rw [plan, hparse] at h
        replace h : (Request.plan files.find stdin ⟨config, task⟩).output = some (path, text) := h
        rw [Request.plan, hload] at h
        cases h
      | ok settings =>
        cases task with
        | test t =>
          rw [plan_test hparse hload, output_testPlan] at h
          cases h
        | convert r =>
          rw [plan_convert hparse hload] at h
          cases houtline : r.outline with
          | true =>
            rw [output_convertPlan_outline houtline] at h
            cases h
          | false =>
            cases hsource : sourceOf files.find stdin r.file with
            | error e =>
              rw [convertPlan, hsource] at h
              cases h
            | ok source =>
              rw [output_convertPlan houtline hsource] at h
              cases hcheck : r.check with
              | true =>
                rw [hcheck] at h
                cases h
              | false =>
                rw [hcheck, if_neg Bool.false_ne_true] at h
                obtain ⟨_, houtput, heq⟩ := Option.map_eq_some_iff.1 h
                cases heq
                exact ⟨config, r, settings, source, hparse, hcheck, houtline, houtput, hload, hsource,
                  rfl⟩
  · rintro ⟨config, r, settings, source, hparse, hcheck, houtline, houtput, hload, hsource, rfl⟩
    rw [plan_convert hparse hload, output_convertPlan houtline hsource, hcheck, houtput]
    rfl

/-- A run that is asked to write has the exit code of its conversion. -/
theorem exit_plan_ne_two (h : WritesTo files stdin args path text) :
    (plan files.find stdin args).outcome.exit ≠ 2 := by
  obtain ⟨config, r, settings, source, hparse, -, houtline, -, hload, hsource, -⟩ := h
  rw [plan_convert hparse hload, exit_convertPlan houtline hsource]
  exact exitCode_ne_two settings source

/-! ## The run -/

/-- A run that is not asked to write leaves the files as they are. -/
theorem run_of_no_output (h : ∀ path text, ¬ WritesTo files stdin args path text) :
    (run files stdin args).2 = files := by
  have hnone : (plan files.find stdin args).output = none := by
    rw [Option.eq_none_iff_forall_ne_some]
    rintro ⟨path, text⟩ hsome
    exact h path text (output_plan_iff.1 hsome)
  rw [run, hnone]

/-- What is asked for is written, and the exit code is not 2. -/
theorem run_of_written {after : Entry} (h : WritesTo files stdin args path text)
    (hwrite : files.write path text = .ok after) :
    (run files stdin args).2 = after ∧ (run files stdin args).1.exit ≠ 2 := by
  have hrun : run files stdin args = ((plan files.find stdin args).outcome, after) := by
    simp only [run, output_plan_iff.2 h, hwrite]
  rw [hrun]
  exact ⟨rfl, exit_plan_ne_two h⟩

/-- What cannot be written leaves the files as they are, and the exit code is 2. -/
theorem run_of_not_written {e : FileError} (h : WritesTo files stdin args path text)
    (hwrite : files.write path text = .error e) :
    (run files stdin args).2 = files ∧ (run files stdin args).1.exit = 2 := by
  have hrun : run files stdin args = ((plan files.find stdin args).failed path e, files) := by
    simp only [run, output_plan_iff.2 h, hwrite]
  rw [hrun]
  exact ⟨rfl, rfl⟩

/-- **Only the requested output is written.**  Whatever the arguments and the standard input are, in a tree
of files in which absolute paths and paths above the root lead to nothing: what a run changes or creates
is the file at the path that it is asked to write to, and that file then holds what is asked for.  A run
that is asked to write does so unless the path cannot be written to, and then it ends with exit code 2;
and whenever a run ends with exit code 2, for whatever reason, the files are as they were. -/
theorem run_writes_output_only (files : Entry) (stdin : Option Text) (args : List Text) :
    let result := run files stdin args
    (∀ names, result.2.kindAt names ≠ files.kindAt names →
      ∃ path text, WritesTo files stdin args path text ∧ files.target path = .ok names ∧
        result.2.at? names = some (.file (some text))) ∧
    (∀ path text, WritesTo files stdin args path text →
      (∀ after, files.write path text = .ok after →
        result.2 = after ∧ Lookup.read after.find path = .ok text ∧ result.1.exit ≠ 2) ∧
      (∀ e, files.write path text = .error e → result.2 = files ∧ result.1.exit = 2)) ∧
    (result.1.exit = 2 → result.2 = files) := by
  intro result
  have hwritten : ∀ path text, WritesTo files stdin args path text →
      (∀ after, files.write path text = .ok after →
        result.2 = after ∧ Lookup.read after.find path = .ok text ∧ result.1.exit ≠ 2) ∧
      (∀ e, files.write path text = .error e → result.2 = files ∧ result.1.exit = 2) := by
    intro path text hasked
    refine ⟨fun after hwrite => ?_, fun e hwrite => run_of_not_written hasked hwrite⟩
    obtain ⟨hafter, hexit⟩ := run_of_written hasked hwrite
    exact ⟨hafter, Entry.read_write hwrite, hexit⟩
  by_cases hasked : ∃ path text, WritesTo files stdin args path text
  · obtain ⟨path, text, hasked⟩ := hasked
    refine ⟨fun names hchanged => ?_, hwritten, fun hexit => ?_⟩
    · cases hwrite : files.write path text with
      | error e =>
        rw [((hwritten path text hasked).2 e hwrite).1] at hchanged
        exact absurd rfl hchanged
      | ok after =>
        obtain ⟨there, htarget, hfile, hothers⟩ := Entry.kindAt_write hwrite
        rw [((hwritten path text hasked).1 after hwrite).1] at hchanged ⊢
        obtain rfl : names = there := by
          by_contra hother
          exact hchanged (hothers names hother)
        exact ⟨path, text, hasked, htarget, hfile⟩
    · cases hwrite : files.write path text with
      | error e => exact ((hwritten path text hasked).2 e hwrite).1
      | ok after => exact absurd hexit ((hwritten path text hasked).1 after hwrite).2.2
  · have hsame : result.2 = files :=
      run_of_no_output fun path text h => hasked ⟨path, text, h⟩
    refine ⟨fun names hchanged => ?_, hwritten, fun _ => hsame⟩
    rw [hsame] at hchanged
    exact absurd rfl hchanged

end Scenarist.Command
