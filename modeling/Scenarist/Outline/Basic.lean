/-
  Outlines — what a page says about a feature.

  1. An outline has a title, background steps, scenarios and comments.  A scenario is a name and
     its elements in document order.

  2. An outline is `valid` when it has a title and something to run: a background step or a
     scenario.  Comments alone do not make a feature.
-/
import Scenarist.Outline.Table

namespace Scenarist

/-- One element of a scenario. -/
inductive Element where
  /-- A step: Given, When, Then, And. -/
  | step (text : Text)
  /-- A quote inside the scenario. -/
  | comment (text : Text)
  /-- A table of several columns. -/
  | table (table : Table)
  /-- One bullet: a value for the one-column table under `header`. -/
  | bullet (header value : Text)
  deriving DecidableEq

/-- A scenario. -/
structure Scenario where
  /-- The name of the scenario. -/
  name : Text
  /-- Its elements, in document order. -/
  elements : List Element := []
  deriving DecidableEq

/-- The outline of a feature. -/
structure Outline where
  /-- The title of the feature. -/
  title : Text := []
  /-- The background steps, one text each. -/
  background : List Text := []
  /-- The scenarios, in document order. -/
  scenarios : List Scenario := []
  /-- The comments outside scenarios, each already moved right by two spaces. -/
  comments : List Text := []
  deriving DecidableEq

/-- An outline can be written as a feature: it has a title and a background step or a scenario. -/
def Outline.isValid (o : Outline) : Bool :=
  !o.title.isEmpty && (!o.background.isEmpty || !o.scenarios.isEmpty)

end Scenarist
