/-
  Front matter — what a fixture expects of the page it holds.

  1. A fixture starts with a line of three dashes; a second one ends the front matter, and the page
     follows.  Line endings may be line feeds or carriage returns with line feeds.

  2. The front matter is a TOML document.  All its keys are optional, and no others are allowed.
-/
import Scenarist.Toml.Document

namespace Scenarist.Fixture

/-! ## Splitting -/

/-- What is wrong with the front matter of a fixture. -/
inductive FrontMatterError where
  /-- The fixture does not start with three dashes. -/
  | noOpening
  /-- No line of dashes ends the front matter. -/
  | noClosing
  /-- The front matter does not say what is expected. -/
  | malformed
  deriving DecidableEq, Repr

/-- What the user is told about front matter. -/
def FrontMatterError.message : FrontMatterError → Text
  | .noOpening => "missing opening --- front matter delimiter".toList
  | .noClosing => "missing closing --- front matter delimiter".toList
  | .malformed => "TOML parse error".toList

/-- The text without a line ending at its front. -/
def skipLineEnd : Text → Text
  | '\n' :: t => t
  | '\r' :: '\n' :: t => t
  | t => t

/-- A text without the carriage returns that it ends with. -/
def dropReturns (t : Text) : Text := (t.reverse.dropWhile (· == '\r')).reverse

/-- The front matter and the page of a fixture. -/
def split (content : Text) : Except FrontMatterError (Text × Text) :=
  match Text.after? "---".toList (content.dropWhile (· == '\uFEFF')) with
  | none => .error .noOpening
  | some rest =>
      match Text.cut? "\n---".toList (skipLineEnd rest) with
      | none => .error .noClosing
      | some (front, page) => .ok (dropReturns front, skipLineEnd page)

/-! ## Expectations -/

/-- What a fixture expects. -/
structure Expectation where
  /-- What the fixture is about. -/
  description : Option Text := none
  /-- The feature text, but for blanks at its ends. -/
  output : Option Text := none
  /-- A part of the body of the failure. -/
  error : Option Text := none
  /-- How many constructs are left out. -/
  warnings : Option Nat := none
  /-- Whether the columns of tables are lined up before the comparison. -/
  align : Bool := true
  deriving DecidableEq, Repr

/-- The keys of the front matter. -/
def frontMatterKeys : List Text :=
  ["description".toList, "expect_output".toList, "expect_error".toList, "expect_warnings".toList,
    "align".toList]

/-- The expectation of a table. -/
def Expectation.ofTable? (es : Toml.Table) : Option Expectation := do
  let text := fun (key : Text) => Toml.Table.field? es key (fun v => v.text?.map some) none
  if !Toml.Table.hasOnly es frontMatterKeys then none
  else
    return {
      description := ← text "description".toList
      output := ← text "expect_output".toList
      error := ← text "expect_error".toList
      warnings := ← Toml.Table.field? es "expect_warnings".toList (fun v => v.count?.map some) none
      align := ← Toml.Table.field? es "align".toList Toml.Value.bool? true }

/-- The expectation and the page of a fixture. -/
def parse (content : Text) : Except FrontMatterError (Expectation × Text) := do
  let (front, page) ← split content
  match (Toml.parse? front).bind Expectation.ofTable? with
  | some e => .ok (e, page)
  | none => .error .malformed

/-! ## Examples -/

example : (split "---\r\na = 1\r\n---\r\n# T".toList).toOption
    = some ("a = 1".toList, "# T".toList) := by decide +kernel

end Scenarist.Fixture
