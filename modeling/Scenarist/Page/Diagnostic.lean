/-
  Diagnostics — what the user is told about a place in a page.
-/
import Scenarist.Markdown.Source

namespace Scenarist

/-- How bad it is. -/
inductive Severity where
  /-- Nothing is produced. -/
  | error
  /-- Something is left out. -/
  | warning
  deriving DecidableEq, Repr

/-- The name of a severity. -/
def Severity.name : Severity → Text
  | .error => "error".toList
  | .warning => "warning".toList

/-- A message about a stretch of a file. -/
structure Diagnostic where
  /-- How bad it is. -/
  severity : Severity
  /-- What has happened. -/
  message : Text
  /-- The number of the file. -/
  file : Nat
  /-- The stretch of the file. -/
  span : Markdown.Span
  /-- What is said at that stretch. -/
  label : Text
  /-- What is said below. -/
  notes : List Text
  deriving DecidableEq, Repr

end Scenarist
