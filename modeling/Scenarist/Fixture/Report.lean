/-
  Reports — what the user sees of the trials of a suite.

  First comes one line for each trial, then the reason of each failure, and last the counts.
-/
import Scenarist.Fixture.Suite

namespace Scenarist.Fixture

/-- The lines of a text; a line ending at its end starts no further line. -/
def reasonLines (t : Text) : List Text :=
  let ls := Text.lines t
  let ls := if ls.getLast? = some [] then ls.dropLast else ls
  ls.map fun l => if l.getLast? = some '\r' then l.dropLast else l

/-- The name of a file without its folder and without its last extension. -/
def fileStem (path : Text) : Text :=
  let name := (path.reverse.takeWhile (· != '/')).reverse
  let front := (name.reverse.dropWhile (· != '.')).drop 1
  if front.isEmpty then name else front.reverse

/-- What a trial is called. -/
def Trial.label (t : Trial) : Text := t.description.getD (fileStem t.path)

/-- The line of a trial. -/
def Trial.line (t : Trial) : Text :=
  (if t.passed then "  PASS  ".toList else "  FAIL  ".toList) ++ t.label

/-- The lines that tell why a trial failed. -/
def Trial.failureLines (t : Trial) : List Text :=
  match t.failure with
  | none => []
  | some reason =>
      [[], "  --- ".toList ++ t.path ++ " ---".toList] ++ (reasonLines reason).map (Text.indent 2)

/-- The line with the counts. -/
def countLine (trials : List Trial) : Text :=
  let passed := (trials.filter Trial.passed).length
  let failed := trials.length - passed
  if failed = 0 then
    "test result: ok. ".toList ++ Text.ofNat passed ++ " passed, 0 failed".toList
  else
    "test result: FAILED. ".toList ++ Text.ofNat passed ++ " passed, ".toList ++ Text.ofNat failed
      ++ " failed (of ".toList ++ Text.ofNat trials.length ++ [')']

/-- The lines of a report. -/
def reportLines (trials : List Trial) : List Text :=
  let failures := if trials.all Trial.passed then []
    else [[], "failures:".toList] ++ trials.flatMap Trial.failureLines
  trials.map Trial.line ++ failures ++ [[], countLine trials]

/-- What the user is told if there is no fixture at a path. -/
def nothingFound (path : Text) : Text := "no .test.md files found in ".toList ++ path

/-- The lines that name the categories at a path and count their fixtures. -/
def categoryLines (find : Lookup) (path : Text) : List Text :=
  let fs := match find path with
    | .ok e => discover e
    | .error _ => []
  match find path with
  | .ok (.file _) => ["(single file, no categories)".toList]
  | _ =>
      if fs.isEmpty then [nothingFound path]
      else
        "available categories:".toList :: (categories fs).map fun c =>
          "  ".toList ++ categoryLabel c ++ " (".toList
            ++ Text.ofNat (fs.filter fun f => f.category = c).length ++ " tests)".toList

end Scenarist.Fixture
