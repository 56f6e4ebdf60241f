/-
  Rendering — an outline as the text of a Gherkin feature file.

  1. The parts stand in the order title, comments, background, scenarios.  A blank line opens the
     background and each scenario; an absent part leaves no trace.

  2. A table that repeats the table kept right before it is left out.  Of consecutive bullets only
     the first brings its header, so they read as one table.

  3. An outline that cannot be written is answered by an error, whose body stands in the place of
     the feature.
-/
import Scenarist.Outline.Basic

namespace Scenarist.Feature

/-! ## Rows -/

/-- A row of cells between bars. -/
def row (cells : List Text) : Text :=
  "| ".toList ++ List.intercalate " | ".toList cells ++ " |".toList

/-- The line of a row. -/
def rowLine (cells : List Text) : Text := Text.indent 4 (row cells)

/-! ## Elements -/

/-- Whether the element is a table equal to the one kept last. -/
def repeats (kept : Option Element) (e : Element) : Bool :=
  match kept, e with
  | some (.table last), .table t => last == t
  | _, _ => false

/-- The elements without the tables that repeat the element kept right before them; `kept` is the
element kept last. -/
def dropRepeatsAfter (kept : Option Element) : List Element → List Element
  | [] => []
  | e :: es =>
      if repeats kept e then dropRepeatsAfter kept es else e :: dropRepeatsAfter (some e) es

/-- The elements without the tables that repeat the element kept right before them. -/
def dropRepeats (es : List Element) : List Element := dropRepeatsAfter none es

/-- Whether an element is a bullet. -/
def isBullet : Element → Bool
  | .bullet _ _ => true
  | _ => false

/-- The text of an element that stands after `previous`; a table or a bullet may have several
lines. -/
def elementText (previous : Option Element) : Element → Text
  | .step text => Text.indent 2 text
  | .comment text => Text.indent 2 ('#' :: text)
  | .table t => Text.unlines (t.rows.map rowLine)
  | .bullet header value =>
      if previous.any isBullet then rowLine [value]
      else Text.unlines [rowLine [header], rowLine [value]]

/-- The texts of elements, the first of which stands after `previous`. -/
def elementTextsAfter (previous : Option Element) : List Element → List Text
  | [] => []
  | e :: es => elementText previous e :: elementTextsAfter (some e) es

/-- The texts of the elements of a scenario, one for each that is kept. -/
def elementTexts (es : List Element) : List Text := elementTextsAfter none (dropRepeats es)

/-! ## Parts -/

/-- A scenario, after the blank line that sets it off. -/
def scenarioText (s : Scenario) : Text :=
  Text.unlines (("\nScenario: ".toList ++ s.name) :: elementTexts s.elements)

/-- The background, after the blank line that sets it off. -/
def backgroundText (steps : List Text) : Text :=
  Text.unlines ("\nBackground:".toList :: steps.map (Text.indent 2))

/-- The parts of a feature that are there, in order. -/
def parts (o : Outline) : List Text :=
  [ "Feature: ".toList ++ o.title ]
    ++ (if o.comments.isEmpty then [] else [Text.unlines o.comments])
    ++ (if o.background.isEmpty then [] else [backgroundText o.background])
    ++ (if o.scenarios.isEmpty then [] else [Text.unlines (o.scenarios.map scenarioText)])

/-- The text of a feature. -/
def compose (o : Outline) : Text := Text.unlines (parts o)

/-! ## Whole features -/

/-- Why there is no feature to write. -/
inductive Failure where
  /-- No outline was found on the page. -/
  | missingContent
  /-- The outline has no title, or neither background nor scenarios. -/
  | invalidContent
  deriving DecidableEq, Repr

/-- The body shown in place of the feature. -/
def Failure.body : Failure → Text
  | .missingContent =>
      ("Error: Could not retrieve content from current page\n\n"
        ++ "1. Ensure you're on a valid Notion page\n"
        ++ "2. Refresh the page and try again").toList
  | .invalidContent => "Error: Content has invalid values\n\n".toList

/-- The feature of an outline, where `none` stands for a page without one. -/
def convert : Option Outline → Except Failure Text
  | none => .error .missingContent
  | some o => if o.isValid then .ok (compose o) else .error .invalidContent

/-- What is shown for an outline: the feature, or the body of the failure. -/
def shown (o : Option Outline) : Text :=
  match convert o with
  | .ok text => text
  | .error failure => failure.body

end Scenarist.Feature
