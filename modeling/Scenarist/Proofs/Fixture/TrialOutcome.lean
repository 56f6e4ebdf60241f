/-
  Trial outcomes — a fixture passes exactly if its page does what it expects.

  1. **What is expected (`Meets`)** — an error whose body holds the expected text, or else a feature,
     and the expected one if there is an expected output; and the expected number of omissions.  The
     feature is the one that the library renders, aligned as the fixture says.

  2. **Faults** — what is looked at first only settles which fault is told.  There is none exactly if
     there is neither a fault of the output nor one of the warnings (`fault_eq_none_iff`).

  3. **Conversions (`Printing`)** — the program prints the feature of a page as its settings and
     `--no-align` say, whatever a fixture says.  So a fixture that expects what was printed passes if
     both align alike, and otherwise if aligning makes no difference but at the ends.
-/
import Scenarist.Proofs.Command.Conversion
import Scenarist.Proofs.Text.Search

namespace Scenarist.Fixture

open Scenarist.Command (ConvertRequest outlineOf parseArguments sourceOf)

variable {find : Lookup} {options : Extraction.Options} {e : Expectation}
  {outline : Option Outline} {path content page : Text}

/-! ## What is expected -/

/-- Whether a page does what a fixture expects of it. -/
structure Meets (options : Extraction.Options) (e : Expectation) (page : Text) : Prop where
  /-- An expected error stands in the body of a failure. -/
  error : ∀ expected ∈ e.error, ∃ failure,
    Feature.convert (outlineOf options page) = .error failure ∧ expected <:+: failure.body
  /-- If no error is expected, there is a feature, and it is the expected one but for blanks at the
  ends. -/
  output : e.error = none →
    (∃ text, Feature.convert (outlineOf options page) = .ok text) ∧
    ∀ expected ∈ e.output,
      Text.trim (Alignment.render (outlineOf options page) e.align) = Text.trim expected
  /-- As many constructs are left out as expected. -/
  warnings : ∀ n ∈ e.warnings, (Page.read 0 page).omissions.length = n

/-! ## Faults -/

/-- Where an error is expected, a failure that tells it is the only thing without a fault. -/
theorem outputFault_eq_none_of_error {expected : Text} (herror : e.error = some expected) :
    outputFault e (Feature.convert outline) = none ↔
      ∃ failure, Feature.convert outline = .error failure ∧ expected <:+: failure.body := by
  unfold outputFault
  rw [herror]
  cases Feature.convert outline with
  | ok text => simp
  | error failure => simp [← Text.includes_iff]

/-- Where none is expected, a feature that is the expected one is. -/
theorem outputFault_eq_none_of_noError (herror : e.error = none) :
    outputFault e (Feature.convert outline) = none ↔
      (∃ text, Feature.convert outline = .ok text) ∧
      ∀ expected ∈ e.output, Text.trim (Alignment.render outline e.align) = Text.trim expected := by
  unfold outputFault
  rw [herror, Command.render_eq]
  cases Feature.convert outline with
  | ok text => cases houtput : e.output <;> simp
  | error failure => cases e.output <;> simp

theorem warningFault_eq_none_iff {omissions : List Omission} :
    warningFault e omissions = none ↔ ∀ n ∈ e.warnings, omissions.length = n := by
  unfold warningFault
  cases e.warnings <;> simp

/-- **A page has no fault** exactly if it does what is expected. -/
theorem fault_eq_none_iff : fault options e page = none ↔ Meets options e page := by
  have hor : fault options e page = none ↔
      outputFault e (Feature.convert (outlineOf options page)) = none ∧
        warningFault e (Page.read 0 page).omissions = none := Option.or_eq_none_iff
  rw [hor, warningFault_eq_none_iff]
  cases herror : e.error with
  | some expected =>
    rw [outputFault_eq_none_of_error herror]
    constructor
    · rintro ⟨hfailure, hwarnings⟩
      exact ⟨by simpa [herror] using hfailure, by simp [herror], hwarnings⟩
    · intro hmeets
      exact ⟨hmeets.error expected herror, hmeets.warnings⟩
  | none =>
    rw [outputFault_eq_none_of_noError herror]
    constructor
    · rintro ⟨hfeature, hwarnings⟩
      exact ⟨by simp [herror], fun _ => hfeature, hwarnings⟩
    · intro hmeets
      exact ⟨hmeets.output herror, hmeets.warnings⟩

/-! ## Conversions -/

/-- A run of the program that is to print the feature of a page. -/
structure Printing (options : Extraction.Options) (page : Text) where
  /-- The tree of files that the program runs in. -/
  files : Entry
  /-- The standard input. -/
  stdin : Option Text
  /-- The arguments. -/
  args : List Text
  /-- The settings file that is asked for. -/
  config : Option Text
  /-- The conversion that is asked for. -/
  request : ConvertRequest
  /-- The settings. -/
  settings : Settings
  parsed : parseArguments args = .ok ⟨config, .convert request⟩
  loaded : Settings.load files.find config = .ok settings
  sameOptions : settings.options = options
  sourced : sourceOf files.find stdin request.file = .ok page
  /-- The feature is printed, not its outline, a verdict or nothing. -/
  printed : request.outline = false ∧ request.check = false ∧ request.output = none

namespace Printing

/-- What the run comes to. -/
def outcome (p : Printing options page) : Command.Outcome := (Command.run p.files p.stdin p.args).1

/-- Whether the run lines up the columns of tables. -/
def aligned (p : Printing options page) : Bool := p.settings.align && !p.request.noAlign

/-- What is printed is what the library renders, and a line feed. -/
theorem outcome_eq (p : Printing options page) :
    p.outcome.stdout = Alignment.render (outlineOf options page) p.aligned ++ ['\n'] ∧
      (p.outcome.exit = 0 ↔ ∃ text, Feature.convert (outlineOf options page) = .ok text) := by
  obtain ⟨houtline, hcheck, houtput⟩ := p.printed
  have hfound : outlineOf p.settings.options page = outlineOf options page := by
    rw [p.sameOptions]
  have hconversion : Command.conversion p.settings p.request page
      = (Command.exitCode p.settings page,
          Command.featureText p.settings p.request.noAlign page, none) := by
    rw [Command.conversion, hcheck, if_neg Bool.false_ne_true, houtput]
  have hseen : Command.seen (Command.run p.files p.stdin p.args)
      = (Command.exitCode p.settings page,
          Command.featureText p.settings p.request.noAlign page, p.files) := by
    rw [Command.seen_conversion p.parsed houtline p.loaded p.sourced, hconversion]
    rfl
  have hexit : p.outcome.exit = Command.exitCode p.settings page := congrArg Prod.fst hseen
  have hstdout : p.outcome.stdout = Command.featureText p.settings p.request.noAlign page :=
    congrArg (fun s => s.2.1) hseen
  constructor
  · rw [hstdout, Command.featureText, hfound, aligned]
  · rw [hexit, Command.exitCode, hfound]
    cases Feature.convert (outlineOf options page) <;> simp

/-- A fixture that expects just what was printed asks for a feature, and for the same text aligned as the
fixture says and as the run does. -/
theorem meets_stdout_iff (p : Printing options page) (herror : e.error = none)
    (houtput : e.output = some p.outcome.stdout)
    (hwarnings : ∀ n ∈ e.warnings, (Page.read 0 page).omissions.length = n) :
    Meets options e page ↔ p.outcome.exit = 0 ∧
      Text.trim (Alignment.render (outlineOf options page) e.align)
        = Text.trim (Alignment.render (outlineOf options page) p.aligned) := by
  obtain ⟨hstdout, hexit⟩ := p.outcome_eq
  have htrim : Text.trim p.outcome.stdout
      = Text.trim (Alignment.render (outlineOf options page) p.aligned) := by
    rw [hstdout]
    exact Text.trim_append_blank (List.all_eq_true.1 rfl) _
  rw [hexit, ← htrim]
  constructor
  · intro hmeets
    obtain ⟨hfeature, hsame⟩ := hmeets.output herror
    exact ⟨hfeature, hsame _ houtput⟩
  · rintro ⟨hfeature, hsame⟩
    refine ⟨by simp [herror], fun _ => ⟨hfeature, fun expected hexpected => ?_⟩, hwarnings⟩
    obtain rfl : p.outcome.stdout = expected := Option.some.inj (houtput.symm.trans hexpected)
    exact hsame

end Printing

/-! ## Trials -/

/-- **A trial passes** exactly if the page does what the fixture expects, and it tells what the fixture is
about either way.  If the fixture expects just what a run of the program prints for the page, it passes
exactly if that run ends with 0 and aligning as the fixture says gives the same text as aligning as the
run does; so it does if both align alike. -/
theorem trial_passes_iff (options : Extraction.Options) (hread : Lookup.read find path = .ok content)
    (hparse : parse content = .ok (e, page)) :
    let trial := attempt find options path
    trial.path = path ∧ trial.description = e.description ∧
    (trial.passed = true ↔ Meets options e page) ∧
    ∀ p : Printing options page, e.error = none → e.output = some p.outcome.stdout →
      (∀ n ∈ e.warnings, (Page.read 0 page).omissions.length = n) →
      (trial.passed = true ↔ p.outcome.exit = 0 ∧
        Text.trim (Alignment.render (outlineOf options page) e.align)
          = Text.trim (Alignment.render (outlineOf options page) p.aligned)) ∧
      (e.align = p.aligned → p.outcome.exit = 0 → trial.passed = true) := by
  intro trial
  have htrial : trial = ⟨path, e.description, fault options e page⟩ := by
    show attempt find options path = _
    rw [attempt, hread]
    dsimp only
    rw [hparse]
  have hpassed : trial.passed = true ↔ Meets options e page := by
    rw [htrial, Trial.passed, Option.isNone_iff_eq_none, fault_eq_none_iff]
  refine ⟨by rw [htrial], by rw [htrial], hpassed, fun p herror houtput hwarnings => ?_⟩
  have hprinted := hpassed.trans (p.meets_stdout_iff herror houtput hwarnings)
  refine ⟨hprinted, fun halign hexit => hprinted.2 ⟨hexit, ?_⟩⟩
  rw [halign]

/-- A page with columns to line up. -/
def columnsPage : Text :=
  "# T\n\n## Feature\n\n### Scenarios\n\n#### S\n\nGiven\n\n|a|b|\n|-|-|\n|long|c|\n".toList

/-- A fixture with the page that expects its columns as they are, with more lines of front matter. -/
def columnsFixture (more : Text) : Text :=
  "---\nexpect_output = \"Feature: T\\n\\nScenario: S\\n  Given\\n".toList
    ++ "    | a | b |\\n    | long | c |\\n\"\n".toList ++ more ++ "---\n".toList ++ columnsPage

/-- The page among settings that leave columns as they are, with a fixture that lines them up and one
that leaves them. -/
def columnsFolder : Entry := .folder [
  ("featurefile.toml".toList, .file (some "[output]\nalign_tables = false\n".toList)),
  ("page.md".toList, .file (some columnsPage)),
  ("lined.test.md".toList, .file (some (columnsFixture []))),
  ("left.test.md".toList, .file (some (columnsFixture "align = false\n".toList)))]

/-- The page is converted as the settings say. -/
def printColumns : Printing {} columnsPage where
  files := columnsFolder
  stdin := none
  args := ["convert".toList, "page.md".toList]
  config := none
  request :=
    { file := "page.md".toList, output := none, check := false, outline := false, noAlign := false,
      quiet := false }
  settings := { align := false }
  parsed := by decide +kernel
  loaded := by decide +kernel
  sameOptions := rfl
  sourced := by decide +kernel
  printed := ⟨rfl, rfl, rfl⟩

/-- What is printed for the page. -/
theorem outcome_printColumns :
    printColumns.outcome.exit = 0 ∧ printColumns.outcome.stdout
      = "Feature: T\n\nScenario: S\n  Given\n    | a | b |\n    | long | c |\n".toList := by
  decide +kernel

/-- The fixture that leaves columns as they are expects what is printed, and passes. -/
theorem trial_passes_iff_left :
    let e : Expectation := { output := some printColumns.outcome.stdout, align := false }
    let content := columnsFixture "align = false\n".toList
    Lookup.read columnsFolder.find "left.test.md".toList = .ok content ∧
    parse content = .ok (e, columnsPage) ∧ printColumns.outcome.exit = 0 ∧
    (attempt columnsFolder.find {} "left.test.md".toList).passed = true ∧ Meets {} e columnsPage := by
  intro e content
  obtain ⟨hexit, hstdout⟩ := outcome_printColumns
  have hread : Lookup.read columnsFolder.find "left.test.md".toList = .ok content := by decide +kernel
  have hparse : parse content = .ok (e, columnsPage) := by
    simp only [e, hstdout]
    decide +kernel
  obtain ⟨-, -, hmeets, hprinted⟩ := trial_passes_iff {} hread hparse
  obtain ⟨-, hpasses⟩ := hprinted printColumns rfl rfl nofun
  have hpassed := hpasses rfl hexit
  exact ⟨hread, hparse, hexit, hpassed, hmeets.1 hpassed⟩

/-- The fixture that lines columns up expects what is printed too, and fails. -/
theorem lined_fails :
    let e : Expectation := { output := some printColumns.outcome.stdout }
    let content := columnsFixture []
    Lookup.read columnsFolder.find "lined.test.md".toList = .ok content ∧
    parse content = .ok (e, columnsPage) ∧ printColumns.outcome.exit = 0 ∧
    (attempt columnsFolder.find {} "lined.test.md".toList).passed = false := by
  intro e content
  obtain ⟨hexit, hstdout⟩ := outcome_printColumns
  have hparse : parse content = .ok (e, columnsPage) := by
    simp only [e, hstdout]
    decide +kernel
  exact ⟨by decide +kernel, hparse, hexit, by decide +kernel⟩

end Scenarist.Fixture
