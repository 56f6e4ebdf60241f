/-
  Extraction — the outline of a page, read in one pass over its blocks.

  1. A level-2 heading opens a feature region when its text is one of the feature headings, and
     closes it otherwise.  Inside a region a level-3 heading picks the section, and in the
     scenarios section a level-4 heading starts a scenario.  The last level-1 heading is the title.

  2. `State` is what the pass knows after some blocks.  `State.apply` takes one more block;
     `State.finish` gives the outline, if a title was seen.

  3. The header for bullets is the one inferred from the last step that was filed.  It outlives the
     scenario and the region it was found in.
-/
import Scenarist.Page.Block
import Scenarist.Outline.Basic
import Scenarist.Outline.Sentence

namespace Scenarist

namespace Extraction

/-! ## Options -/

/-- The header of bullets when no step gives one. -/
def defaultHeader : Text := "Elements".toList

/-- The heading names that an extraction goes by. -/
structure Options where
  /-- Level-2 headings that open a feature region. -/
  featureHeadings : List Text := ["feature".toList, "user story".toList]
  /-- The level-3 heading of the background. -/
  backgroundHeading : Text := "background".toList
  /-- The level-3 heading of the scenarios. -/
  scenariosHeading : Text := "scenarios".toList
  /-- The header of bullets when no step gives one. -/
  defaultTableHeader : Text := defaultHeader
  deriving DecidableEq

/-- The form in which heading texts are compared: trimmed and in lower case. -/
def normalName (t : Text) : Text := Text.lower (Text.trim t)

/-- Options whose heading names are in the form that is compared. -/
def Options.normalized (o : Options) : Options :=
  { o with
    featureHeadings := o.featureHeadings.map normalName
    backgroundHeading := normalName o.backgroundHeading
    scenariosHeading := normalName o.scenariosHeading }

/-! ## The state of a pass -/

/-- The part of a feature region. -/
inductive Section where
  /-- No section that counts. -/
  | none
  /-- The background steps. -/
  | background
  /-- The scenarios. -/
  | scenarios
  deriving DecidableEq, Repr

/-- What is known after some blocks of a page. -/
structure State where
  /-- The outline so far; its title is filled in at the end. -/
  outline : Outline := {}
  /-- The text of the last level-1 heading. -/
  title : Option Text := Option.none
  /-- Whether the pass is inside a feature region. -/
  recording : Bool := false
  /-- The current section. -/
  currentSection : Section := Section.none
  /-- The place of the open scenario among the scenarios. -/
  active : Option Nat := Option.none
  /-- The header for the next bullets. -/
  tableHeader : Text
  deriving DecidableEq

namespace State

/-- The state before the first block. -/
def initial (o : Options) : State := { tableHeader := o.defaultTableHeader }

/-- The open scenario. -/
def activeScenario (s : State) : Option Scenario := s.active.bind fun i => s.outline.scenarios[i]?

/-- The section that a level-3 heading of a feature region picks. -/
def sectionOf (o : Options) (name : Text) : Section :=
  if name = o.backgroundHeading then .background
  else if name = o.scenariosHeading then .scenarios
  else .none

/-- An element added to the open scenario; nothing when no scenario is open. -/
def file (s : State) (e : Element) : State :=
  match s.activeScenario, s.active with
  | some _, some i =>
      { s with outline := { s.outline with
          scenarios := s.outline.scenarios.modify i fun sc =>
            { sc with elements := sc.elements ++ [e] } } }
  | _, _ => s

/-- The state after a heading. -/
def applyHeading (o : Options) (s : State) (level : Nat) (text : Text) : State :=
  match level with
  | 1 => { s with title := some (Text.trim text) }
  | 2 =>
      { s with
        recording := o.featureHeadings.contains (normalName text)
        currentSection := .none
        active := none }
  | 3 =>
      if s.recording then
        { s with currentSection := sectionOf o (normalName text), active := none }
      else s
  | 4 =>
      if s.recording && s.currentSection == .scenarios then
        { s with
          outline := { s.outline with
            scenarios := s.outline.scenarios ++ [{ name := Text.trim text }] }
          active := some s.outline.scenarios.length }
      else s
  | _ => s

/-- The state after a quote: a comment of the open scenario, or else of the feature. -/
def applyQuote (s : State) (content : RichText) : State :=
  let text := RichText.flatten content
  if s.activeScenario.isSome then s.file (.comment text)
  else
    { s with outline := { s.outline with
        comments := s.outline.comments ++ [Text.indent 2 text] } }

/-- The state after a paragraph: a background step, a step of the open scenario, or nothing. -/
def applyParagraph (o : Options) (s : State) (raw : Text) : State :=
  let text := Sentence.clean raw
  match s.currentSection with
  | .background =>
      { s with outline := { s.outline with background := s.outline.background ++ [text] } }
  | .scenarios =>
      if Sentence.isStep text && s.activeScenario.isSome then
        { s.file (.step text) with tableHeader := Sentence.headerOf text o.defaultTableHeader }
      else s
  | .none => s

/-- The state after a table. -/
def applyTable (s : State) (rows : List (List Text)) : State :=
  let table := Table.ofRows rows
  if s.recording && !table.isEmpty && s.currentSection == .scenarios then s.file (.table table)
  else s

/-- The state after a bullet. -/
def applyBullet (s : State) (raw : Text) : State :=
  let value := Text.trim raw
  if !value.isEmpty && s.currentSection == .scenarios then s.file (.bullet s.tableHeader value)
  else s

/-- The state after one more block. -/
def apply (o : Options) (s : State) : Block → State
  | .heading level text => s.applyHeading o level text
  | .quote content => s.applyQuote content
  | .paragraph raw => s.applyParagraph o raw
  | .bullet raw => s.applyBullet raw
  | .table rows => s.applyTable rows

/-- The state after a list of blocks. -/
def applyAll (o : Options) (s : State) (blocks : List Block) : State := blocks.foldl (apply o) s

/-- The outline at the end of a pass, if a title was seen. -/
def finish (s : State) : Option Outline :=
  s.title.map fun title => { s.outline with title := title }

end State

/-! ## Whole pages -/

/-- Why a page gives no outline. -/
inductive Failure where
  /-- The page has no blocks. -/
  | noBlocks
  /-- The page has no level-1 heading. -/
  | missingTitle
  deriving DecidableEq, Repr

/-- The message of a failure. -/
def Failure.message : Failure → Text
  | .noBlocks => "the page has no content blocks".toList
  | .missingTitle => "no level-1 heading found to use as the feature title".toList

/-- The outline of a page under options whose names are normalized. -/
def runNormalized (o : Options) (blocks : List Block) : Except Failure Outline :=
  if blocks.isEmpty then .error .noBlocks
  else
    match ((State.initial o).applyAll o blocks).finish with
    | some outline => .ok outline
    | none => .error .missingTitle

/-- The outline of a page. -/
def run (o : Options) (blocks : List Block) : Except Failure Outline :=
  runNormalized o.normalized blocks

end Extraction

end Scenarist
