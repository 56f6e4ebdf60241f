/-
  Trials — one fixture put to the test.

  1. The page is read, extracted and written.  If an error is expected, there must be one with a
     body that holds the expected text.  Otherwise the page must convert, and to the expected
     output if there is one.

  2. If that holds, and a number of warnings is expected, there must be that many omissions.
-/
import Scenarist.Feature.Alignment
import Scenarist.Files.Tree
import Scenarist.Fixture.FrontMatter
import Scenarist.Outline.Extraction
import Scenarist.Page.Reading

namespace Scenarist.Fixture

/-- How a trial went. -/
structure Trial where
  /-- The path of the fixture. -/
  path : Text
  /-- What the fixture is about. -/
  description : Option Text
  /-- Why the fixture fails; none if it passes. -/
  failure : Option Text
  deriving DecidableEq, Repr

/-- Whether a trial passed. -/
def Trial.passed (t : Trial) : Bool := t.failure.isNone

/-- What is wrong with what a page converts to. -/
def outputFault (e : Expectation) (converted : Except Feature.Failure Text) : Option Text :=
  match e.error, e.output, converted with
  | some expected, _, .error failure =>
      if Text.includes expected failure.body then none
      else some ("expected error containing \"".toList ++ expected ++ "\", got: ".toList
        ++ failure.body)
  | some expected, _, .ok _ =>
      some ("expected error containing \"".toList ++ expected
        ++ "\", but conversion succeeded".toList)
  | none, _, .error failure => some ("unexpected conversion error: ".toList ++ failure.body)
  | none, some expected, .ok text =>
      let actual := Text.trim (if e.align then Alignment.align text else text)
      if actual = Text.trim expected then none
      else some ("output mismatch\n--- expected\n".toList ++ Text.trim expected
        ++ "\n--- actual\n".toList ++ actual)
  | none, none, .ok _ => none

/-- What is wrong with what is left out of a page. -/
def warningFault (e : Expectation) (omissions : List Omission) : Option Text :=
  match e.warnings with
  | none => none
  | some expected =>
      if omissions.length = expected then none
      else some ("expected ".toList ++ Text.ofNat expected ++ " warning(s), got ".toList
        ++ Text.ofNat omissions.length ++ ['\n']
        ++ Text.unlines (omissions.map fun o => "  - ".toList ++ o.message))

/-- What is wrong with a page. -/
def fault (options : Extraction.Options) (e : Expectation) (source : Text) : Option Text :=
  let page := Page.read 0 source
  let outline := (Extraction.run options page.blocks).toOption
  (outputFault e (Feature.convert outline)).or (warningFault e page.omissions)

/-- Puts the fixture at a path to the test. -/
def attempt (find : Lookup) (options : Extraction.Options) (path : Text) : Trial :=
  match Lookup.read find path with
  | .error e => ⟨path, none, some ("cannot read file: ".toList ++ e.message)⟩
  | .ok content =>
      match parse content with
      | .error e => ⟨path, none, some ("front matter error: ".toList ++ e.message)⟩
      | .ok (expectation, page) => ⟨path, expectation.description, fault options expectation page⟩

end Scenarist.Fixture
