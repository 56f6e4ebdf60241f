/-
  Conversions — the program prints what the library renders.

  1. **What can be seen** — the exit code, the standard output and the files afterwards (`seen`).
     They are settled by those parts of a plan that are no messages (`seen_run`).

  2. **One step order is as good as the other** — the program aligns a feature only when there is
     one, the library aligns whatever is shown.  The body of a failure has no rows, so both come to
     the same text (`render_eq`).

  3. **Every path to the end** — printed, only checked or written to a file, a conversion has the
     same exit code and the same text (`visible_convertOutcome`).  The messages are on no such path,
     so the options that only choose between messages may be left out (`convert_prints_feature`).
-/
import Scenarist.Command.Run
import Scenarist.Proofs.Command.ArgumentWords
import Scenarist.Proofs.Feature.Alignment
import Scenarist.Proofs.Files.Writing

namespace Scenarist.Command

variable {files : Entry} {stdin : Option Text} {args : List Text} {settings : Settings}
  {source : Text} {r : ConvertRequest}

/-! ## What can be seen -/

/-- What can be seen of a run, but for the messages: the exit code, the standard output and the
files. -/
def seen (r : Outcome × Entry) : Nat × Text × Entry := (r.1.exit, r.1.stdout, r.2)

/-- What can be seen of a plan: the exit code, the standard output, and the file that is written. -/
def Plan.visible (p : Plan) : Nat × Text × Option (Text × Text) :=
  (p.outcome.exit, p.outcome.stdout, p.output)

/-- What carrying out a plan comes to. -/
def carryOut (files : Entry) : Nat × Text × Option (Text × Text) → Nat × Text × Entry
  | (exit, stdout, none) => (exit, stdout, files)
  | (exit, stdout, some (path, content)) =>
      match files.write path content with
      | .ok after => (exit, stdout, after)
      | .error _ => (2, [], files)

theorem seen_run (files : Entry) (stdin : Option Text) (args : List Text) :
    seen (run files stdin args) = carryOut files (plan files.find stdin args).visible := by
  rw [run, Plan.visible]
  cases (plan files.find stdin args).output with
  | none => rfl
  | some written =>
    obtain ⟨path, content⟩ := written
    show seen (match files.write path content with | .ok _ => _ | .error _ => _)
      = match files.write path content with | .ok _ => _ | .error _ => _
    cases files.write path content with
    | ok after => rfl
    | error e => rfl

/-! ## One text -/

/-- Where no line is a row, aligning changes nothing. -/
theorem align_eq_self {t : Text} (h : ∀ line ∈ Text.lines t, Alignment.isRow line = false) :
    Alignment.align t = t := by
  have hlines : ∀ ls : List Text, (∀ line ∈ ls, Alignment.isRow line = false) →
      Alignment.alignLines ls = ls := by
    intro ls
    induction ls with
    | nil =>
      intro _
      rw [Alignment.alignLines]
    | cons line ls ih =>
      intro hls
      rw [Alignment.alignLines_other (hls line (List.mem_cons_self ..)),
        ih fun l hl => hls l (List.mem_cons_of_mem line hl)]
  rw [Alignment.align, hlines _ h, Text.unlines_lines]

/-- The body of a failure has no rows. -/
theorem align_body (f : Feature.Failure) : Alignment.align f.body = f.body := by
  refine align_eq_self ?_
  cases f with
  | missingContent => decide +kernel
  | invalidContent => decide +kernel

/-- What the program prints: the feature, aligned if asked for, or the body of a failure. -/
theorem render_eq (o : Option Outline) (aligned : Bool) :
    Alignment.render o aligned
      = match Feature.convert o with
        | .ok text => if aligned then Alignment.align text else text
        | .error f => f.body := by
  rw [Alignment.render, Feature.shown]
  cases Feature.convert o with
  | ok text => rfl
  | error f =>
    cases aligned with
    | false => rfl
    | true => exact align_body f

/-! ## Every path to the end -/

/-- The outline that the library finds in a source. -/
def outlineOf (options : Extraction.Options) (source : Text) : Option Outline :=
  (Extraction.run options (Page.read 0 source).blocks).toOption

/-- The text that the library renders for a source, and one line feed. -/
def featureText (settings : Settings) (noAlign : Bool) (source : Text) : Text :=
  Alignment.render (outlineOf settings.options source) (settings.align && !noAlign) ++ ['\n']

/-- The exit code of a conversion: 0 if the source converts, 1 if it does not. -/
def exitCode (settings : Settings) (source : Text) : Nat :=
  match Feature.convert (outlineOf settings.options source) with
  | .ok _ => 0
  | .error _ => 1

/-- What can be seen of the plan of a conversion that shows no outline. -/
def conversion (settings : Settings) (r : ConvertRequest) (source : Text) :
    Nat × Text × Option (Text × Text) :=
  let text := featureText settings r.noAlign source
  let exit := exitCode settings source
  if r.check then (exit, [], none)
  else
    match r.output with
    | none => (exit, text, none)
    | some path => (exit, [], some (path, text))

theorem visible_convertOutcome (houtline : r.outline = false) (stderr : Text) :
    (convertOutcome settings r (outlineOf settings.options source) stderr).visible
      = conversion settings r source := by
  have hprinted : ∀ text : Text, printed [text] = text ++ ['\n'] := fun text =>
    List.append_nil (text ++ ['\n'])
  unfold convertOutcome conversion
  rw [houtline, if_neg Bool.false_ne_true, featureText, exitCode, render_eq]
  cases hconvert : Feature.convert (outlineOf settings.options source) with
  | ok text =>
    cases r.check <;> cases r.output <;> simp [Plan.visible, hprinted]
  | error f =>
    cases r.check <;> cases r.output <;> simp [Plan.visible, hprinted]

theorem visible_convertPlan (houtline : r.outline = false) {find : Lookup}
    (hsource : sourceOf find stdin r.file = .ok source) :
    (convertPlan find stdin settings r).visible = conversion settings r source := by
  unfold convertPlan
  rw [hsource]
  have houtcome : ∀ stderr, (convertOutcome settings r (outlineOf settings.options source) stderr).visible
      = conversion settings r source := visible_convertOutcome houtline
  dsimp only
  unfold outlineOf at houtcome
  cases hrun : Extraction.run settings.options (Page.read 0 source).blocks with
  | ok outline =>
    rw [hrun] at houtcome
    exact houtcome _
  | error f =>
    rw [hrun] at houtcome
    exact houtcome _

/-- What is seen of a conversion, if its settings and its source can be read. -/
theorem seen_conversion {config : Option Text}
    (hparse : parseArguments args = .ok ⟨config, .convert r⟩) (houtline : r.outline = false)
    (hload : Settings.load files.find config = .ok settings)
    (hsource : sourceOf files.find stdin r.file = .ok source) :
    seen (run files stdin args) = carryOut files (conversion settings r source) := by
  rw [seen_run, plan, hparse]
  show carryOut files (Request.plan files.find stdin ⟨config, .convert r⟩).visible = _
  rw [Request.plan, hload]
  show carryOut files (convertPlan files.find stdin settings r).visible = _
  rw [visible_convertPlan houtline hsource]

/-! ## Conversions -/

/-- Whether an option only settles which messages there are, and how they look. -/
def Opt.onlyMessages : Opt → Bool
  | .quiet | .verbose | .noColor => true
  | _ => false

/-- The options that settle more than messages. -/
def withoutMessages (gs : List Given) : List Given := gs.filter fun g => !g.opt.onlyMessages

theorem given_withoutMessages {o : Opt} (ho : o.onlyMessages = false) (gs : List Given) :
    given (withoutMessages gs) o = given gs o := by
  refine given_filter (fun g hg => ?_) gs
  rw [hg, ho]
  rfl

theorem valueOf_withoutMessages {o : Opt} (ho : o.onlyMessages = false) (gs : List Given) :
    valueOf (withoutMessages gs) o = valueOf gs o := by
  refine valueOf_filter (fun g hg => ?_) gs
  rw [hg, ho]
  rfl

/-- Options that only settle messages leave what a conversion comes to as it is. -/
theorem conversion_withoutMessages (settings : Settings) (gs : List Given) (file source : Text) :
    conversion settings (convertRequest (withoutMessages gs) file) source
      = conversion settings (convertRequest gs file) source := by
  have hcheck : given (withoutMessages gs) .check = given gs .check :=
    given_withoutMessages rfl gs
  have hnoAlign : given (withoutMessages gs) .noAlign = given gs .noAlign :=
    given_withoutMessages rfl gs
  have houtput : valueOf (withoutMessages gs) .output = valueOf gs .output :=
    valueOf_withoutMessages rfl gs
  simp only [conversion, convertRequest, hcheck, hnoAlign, houtput]
  rfl

/-- **The program and the library agree.**  Let the arguments be those of a conversion with any
options but `--outline`, or any others that are understood alike, and let its settings and its source
be there.  What is printed, and the file that is written, are the text that the library renders, and
the exit code says whether the source converts.  The options for messages change nothing. -/
theorem convert_prints_feature {before after : List Given} {file : Text}
    (hproper : Proper Opt.ofConvert (before ++ after)) (hfile : isValueWord file = true)
    (hargs : parseArguments args = parseArguments (convertWords before file after))
    (houtline : given (before ++ after) .outline = false)
    (hload : Settings.load files.find (valueOf (before ++ after) .config) = .ok settings)
    (hsource : sourceOf files.find stdin file = .ok source) :
    let gs := before ++ after
    let text := featureText settings (given gs .noAlign) source
    let exit := exitCode settings source
    let result := run files stdin args
    (given gs .check = true → seen result = (exit, [], files)) ∧
    (given gs .check = false → valueOf gs .output = none → seen result = (exit, text, files)) ∧
    (given gs .check = false → ∀ path tree, valueOf gs .output = some path →
      files.write path text = .ok tree →
        seen result = (exit, [], tree) ∧ Lookup.read tree.find path = .ok text) ∧
    seen result
      = seen (run files stdin (convertWords (withoutMessages before) file (withoutMessages after)))
    := by
  intro gs text exit result
  have hresult : seen result = carryOut files (conversion settings (convertRequest gs file) source) :=
    seen_conversion (hargs.trans (parse_convertWords hproper hfile)) houtline hload hsource
  have hconversion : conversion settings (convertRequest gs file) source
      = if given gs .check then (exit, [], none)
        else match valueOf gs .output with
          | none => (exit, text, none)
          | some path => (exit, [], some (path, text)) := rfl
  refine ⟨fun hcheck => ?_, fun hcheck hnone => ?_, fun hcheck path tree hpath hwrite => ?_, ?_⟩
  · rw [hresult, hconversion, if_pos hcheck]
    rfl
  · rw [hresult, hconversion, hcheck, if_neg Bool.false_ne_true, hnone]
    rfl
  · refine ⟨?_, Entry.read_write hwrite⟩
    rw [hresult, hconversion, hcheck, if_neg Bool.false_ne_true, hpath]
    show (match files.write path text with | .ok after => _ | .error _ => _) = _
    rw [hwrite]
  · -- without the options for messages, the request has the same settings and the same source
    have hfront : withoutMessages before ++ withoutMessages after = withoutMessages gs :=
      (List.filter_append ..).symm
    have hproper' : Proper Opt.ofConvert (withoutMessages before ++ withoutMessages after) := by
      rw [hfront]
      exact hproper.filter _
    have hparse := parse_convertWords hproper' hfile
    rw [hfront] at hparse
    have houtline' : given (withoutMessages gs) .outline = false :=
      (given_withoutMessages rfl gs).trans houtline
    have hload' : Settings.load files.find (valueOf (withoutMessages gs) .config) = .ok settings := by
      rw [valueOf_withoutMessages rfl]
      exact hload
    rw [hresult, seen_conversion hparse houtline' hload' hsource, conversion_withoutMessages]

/-- The text of a page. -/
def wishesPage : Text :=
  "# T\n\n## Feature\n\n### Cases\n\n#### S\n\nGiven\n\n|a|b|\n|-|-|\n|long|c|\n".toList

/-- A folder with a settings file and the page. -/
def wishes : Entry := .folder [
  ("featurefile.toml".toList, .file (some "[extract]\nscenarios_heading = \"Cases\"\n".toList)),
  ("page.md".toList, .file (some wishesPage))]

/-- The page is written to a file beside it, and nobody is told. -/
theorem convert_prints_feature_wishes :
    let before : List Given := [⟨.quiet, [], true⟩, ⟨.output, "T.feature".toList, true⟩]
    let after : List Given := [⟨.noColor, [], false⟩]
    let args := ["convert".toList, "-qoT.feature".toList, "page.md".toList, "--no-color".toList]
    let text := "Feature: T\n\nScenario: S\n  Given\n    | a    | b |\n    | long | c |\n".toList
    Proper Opt.ofConvert (before ++ after) ∧
    parseArguments args = parseArguments (convertWords before "page.md".toList after) ∧
    ∃ tree, wishes.write "T.feature".toList text = .ok tree ∧
      seen (run wishes none args) = (0, [], tree) ∧
      Lookup.read tree.find "T.feature".toList = .ok text := by
  intro before after args text
  let settings : Settings := { options := { scenariosHeading := "Cases".toList } }
  have hproper : Proper Opt.ofConvert (before ++ after) := by decide +kernel
  have hargs : parseArguments args
      = parseArguments (convertWords before "page.md".toList after) := by decide +kernel
  have hload : Settings.load wishes.find (valueOf (before ++ after) .config) = .ok settings := by
    decide +kernel
  have hsource : sourceOf wishes.find none "page.md".toList = .ok wishesPage := by decide +kernel
  have htext : featureText settings (given (before ++ after) .noAlign) wishesPage = text := by
    decide +kernel
  have hexit : exitCode settings wishesPage = 0 := by decide +kernel
  obtain ⟨tree, htree⟩ : ∃ tree, wishes.write "T.feature".toList text = .ok tree := by
    have hok : (wishes.write "T.feature".toList text).isOk = true := by decide +kernel
    cases hwrite : wishes.write "T.feature".toList text with
    | ok tree => exact ⟨tree, rfl⟩
    | error e =>
      rw [hwrite] at hok
      cases hok
  obtain ⟨-, -, hwritten, -⟩ :=
    convert_prints_feature hproper (by decide) hargs (by decide) hload hsource
  rw [htext, hexit] at hwritten
  exact ⟨hproper, hargs, tree, htree, hwritten (by decide) _ tree (by decide) htree⟩

end Scenarist.Command
