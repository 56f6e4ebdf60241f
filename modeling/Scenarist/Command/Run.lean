/-
  Runs — what the program does for its arguments.

  1. `plan` looks at the arguments, the files and the standard input, and decides the exit code,
     what is printed, and whether a file is written.  At most one file is: the output of a
     conversion.

  2. The exit code is 0 for success, 1 for a page that does not convert or fixtures that do not
     pass, and 2 for a request that cannot be carried out.

  3. `run` carries a plan out in a tree of files.  If the output cannot be written, the tree stays
     as it is.

  4. The log is left out: the lines that `--verbose` adds to the standard error output are no part
     of what a run comes to.
-/
import Scenarist.Command.Arguments
import Scenarist.Command.Drawing
import Scenarist.Command.Dump
import Scenarist.Command.Settings
import Scenarist.Fixture.Report

namespace Scenarist.Command

/-- What a run comes to. -/
structure Outcome where
  /-- The exit code. -/
  exit : Nat
  /-- What is printed to the standard output. -/
  stdout : Text
  /-- What is printed to the standard error output, but for the lines of the log. -/
  stderr : Text
  deriving DecidableEq, Repr

/-- What a run is going to do. -/
structure Plan where
  /-- What the run comes to, if nothing goes wrong while a file is written. -/
  outcome : Outcome
  /-- The file that is written: its path and its content. -/
  output : Option (Text × Text) := none
  deriving DecidableEq, Repr

/-- Lines, each with its ending. -/
def printed (ls : List Text) : Text := ls.flatMap fun l => l ++ ['\n']

/-- The outcome of a plan whose output cannot be written. -/
def Plan.failed (p : Plan) (path : Text) (e : FileError) : Outcome :=
  let line := "error: cannot write '".toList ++ path ++ "': ".toList ++ e.message
  ⟨2, [], p.outcome.stderr ++ printed [line]⟩

/-! ## Conversion -/

/-- What the user is told about a page without an outline.  No block is to blame, so the start of
the page is shown. -/
def extractionDiagnostic (f : Extraction.Failure) (source : Text) : Diagnostic where
  severity := .error
  message := f.message
  file := 0
  span := ⟨0, min 1 (Markdown.byteLength source)⟩
  label := []
  notes :=
    match f with
    | .noBlocks => ["the page is empty or contains only skipped blocks".toList]
    | .missingTitle => ["add a \x60# Title\x60 heading above the feature section".toList]

/-- The text of the page that a conversion is asked for. -/
def sourceOf (find : Lookup) (stdin : Option Text) (file : Text) : Except FileError Text :=
  if file = ['-'] then
    match stdin with
    | some t => .ok t
    | none => .error .notText
  else Lookup.read find file

/-- What a conversion prints instead of a feature, or with it. -/
def convertOutcome (settings : Settings) (r : ConvertRequest) (outline : Option Outline)
    (stderr : Text) : Plan :=
  if r.outline then
    ⟨⟨if outline.isSome then 0 else 1, printed (Dump.ofOutline? outline).lines, stderr⟩, none⟩
  else
    let converted := Feature.convert outline
    if r.check then
      match converted with
      | .ok _ =>
          let line := "ok: ".toList ++ r.file ++ " converts to a feature file".toList
          ⟨⟨0, [], stderr ++ printed [line]⟩, none⟩
      | .error f => ⟨⟨1, [], stderr ++ printed [Text.trimEnd f.body]⟩, none⟩
    else
      let (exit, text) := match converted with
        | .ok text => (0, if settings.align && !r.noAlign then Alignment.align text else text)
        | .error f => (1, f.body)
      match r.output with
      | none => ⟨⟨exit, printed [text], stderr⟩, none⟩
      | some path => ⟨⟨exit, [], stderr⟩, some (path, printed [text])⟩

/-- The plan of a conversion. -/
def convertPlan (find : Lookup) (stdin : Option Text) (settings : Settings) (r : ConvertRequest) :
    Plan :=
  match sourceOf find stdin r.file with
  | .error e =>
      let line := "error: cannot read '".toList ++ r.file ++ "': ".toList ++ e.message
      ⟨⟨2, [], printed [line]⟩, none⟩
  | .ok source =>
      let name := if r.file = ['-'] then "<stdin>".toList else r.file
      let page := Page.read 0 source
      let warnings := if r.quiet then []
        else page.omissions.flatMap fun o => o.diagnostic.draw name source
      match Extraction.run settings.options page.blocks with
      | .ok outline => convertOutcome settings r (some outline) (printed warnings)
      | .error f =>
          convertOutcome settings r none
            (printed (warnings ++ (extractionDiagnostic f source).draw name source))

/-! ## Test runs -/

/-- The plan of a test run. -/
def testPlan (find : Lookup) (settings : Settings) (r : TestRequest) : Plan :=
  if r.listCategories then ⟨⟨0, [], printed (Fixture.categoryLines find r.path)⟩, none⟩
  else
    let run := Fixture.run find settings.options r.path r.categories
    if run.trials.isEmpty then
      ⟨⟨1, [], printed (run.warnings ++ [Fixture.nothingFound r.path])⟩, none⟩
    else
      let exit := if run.trials.all Fixture.Trial.passed then 0 else 1
      ⟨⟨exit, [], printed (run.warnings ++ Fixture.reportLines run.trials)⟩, none⟩

/-! ## Whole runs -/

/-- How the program is called. -/
def usage : List Text := [
  "Turn a structured Markdown page into a Gherkin feature file".toList,
  [],
  "Usage: featurefile [convert] <FILE> [OPTIONS]".toList,
  "       featurefile test <PATH> [OPTIONS]".toList,
  [],
  "Options of all commands: --config <FILE>, --no-color, -v/--verbose, -h/--help".toList,
  "Options of convert: -o/--output <FILE>, --check, --outline, --no-align, -q/--quiet".toList,
  "Options of test: -c/--category <NAME>, --list-categories".toList]

/-- The plan of a request. -/
def Request.plan (find : Lookup) (stdin : Option Text) (r : Request) : Plan :=
  match Settings.load find r.config with
  | .error e => ⟨⟨2, [], printed ["error: ".toList ++ e.message]⟩, none⟩
  | .ok settings =>
      match r.task with
      | .convert c => convertPlan find stdin settings c
      | .test t => testPlan find settings t

/-- The plan for arguments. -/
def plan (find : Lookup) (stdin : Option Text) (args : List Text) : Plan :=
  match parseArguments args with
  | .ok r => r.plan find stdin
  | .error .help => ⟨⟨0, printed usage, []⟩, none⟩
  | .error .version => ⟨⟨0, printed ["featurefile 0.1.0".toList], []⟩, none⟩
  | .error .wrong => ⟨⟨2, [], printed ("error: wrong arguments".toList :: [] :: usage)⟩, none⟩

/-- Runs the program in a tree of files: what it comes to, and the tree afterwards. -/
def run (files : Entry) (stdin : Option Text) (args : List Text) : Outcome × Entry :=
  let p := plan files.find stdin args
  match p.output with
  | none => (p.outcome, files)
  | some (path, content) =>
      match files.write path content with
      | .ok after => (p.outcome, after)
      | .error e => (p.failed path e, files)

end Scenarist.Command
