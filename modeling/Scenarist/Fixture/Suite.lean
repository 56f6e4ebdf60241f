/-
  Suites — the fixtures of a folder, their categories, and the trials that are run.

  1. A fixture is a file at any depth whose name ends in `.test.md`.  Its category is the folder it
     stands in, seen from the folder of the suite.

  2. Fixtures are run by category and then by path, both in the order of their code points, so the
     order in which folders list their entries does not matter.

  3. A requested category selects itself and those below it.  A request that selects nothing new is
     answered by a warning.
-/
import Scenarist.Fixture.Trial

namespace Scenarist.Fixture

/-! ## Discovery -/

/-- A fixture of a suite. -/
structure Found where
  /-- Its category. -/
  category : Text
  /-- The names that lead to it from the folder of the suite. -/
  names : List Text
  deriving DecidableEq, Repr

/-- Whether a name is that of a fixture. -/
def isFixtureName (name : Text) : Bool := ".test.md".toList.isSuffixOf name

/-- The category of a fixture that stands in the folder to which names lead. -/
def categoryOf (folder : List Text) : Text :=
  (List.intercalate ['/'] folder).map fun c => if c = '\\' then '/' else c

/-- The fixtures among some files, each given by the names that lead to it. -/
def fixturesAmong (files : List (List Text)) : List Found :=
  (files.filter fun names => names.getLast?.any isFixtureName).map fun names =>
    ⟨categoryOf names.dropLast, names⟩

/-- Whether a fixture may come before another one. -/
def Found.le (a b : Found) : Bool :=
  a.category < b.category || (a.category = b.category && !(b.names < a.names))

/-- The fixtures of a folder, in the order in which they are run. -/
def discover (e : Entry) : List Found :=
  (fixturesAmong ((e.files []).map Prod.fst)).mergeSort Found.le

/-- The categories of fixtures, each once. -/
def categories (fs : List Found) : List Text := (fs.map Found.category).eraseDups

/-- The name of a category as it is shown. -/
def categoryLabel (category : Text) : Text :=
  if category.isEmpty then "(root)".toList else category

/-! ## Selection -/

/-- A requested name without slashes at its ends. -/
def trimSlashes (t : Text) : Text :=
  ((t.dropWhile (· == '/')).reverse.dropWhile (· == '/')).reverse

/-- Whether a category is the wanted one or lies below it. -/
def isUnder (wanted category : Text) : Bool :=
  category = wanted || (wanted ++ ['/']).isPrefixOf category

/-- What has been selected. -/
structure Selection where
  /-- The selected categories. -/
  chosen : List Text
  /-- The wanted names that selected nothing new. -/
  unmatched : List Text
  deriving DecidableEq, Repr

/-- Selects a further category and those below it. -/
def Selection.add (all : List Text) (s : Selection) (wanted : Text) : Selection :=
  let more := all.filter fun c => isUnder wanted c && !s.chosen.contains c
  if more.isEmpty then { s with unmatched := s.unmatched ++ [wanted] }
  else { s with chosen := s.chosen ++ more }

/-- What the requested names select; all categories if none is requested. -/
def select (all requested : List Text) : Selection :=
  if requested.isEmpty then ⟨all, []⟩
  else (requested.map trimSlashes).foldl (Selection.add all) ⟨[], []⟩

/-- What the user is told about a wanted name that selects nothing. -/
def unmatchedWarning (all : List Text) (wanted : Text) : Text :=
  "warning: category '".toList ++ wanted ++ "' not found (available: ".toList
    ++ List.intercalate ", ".toList (all.map categoryLabel) ++ [')']

/-! ## Running -/

/-- The path of what names lead to from a path. -/
def joinPath (path : Text) (names : List Text) : Text :=
  names.foldl
    (fun path name => if path.getLast? = some '/' then path ++ name else path ++ '/' :: name) path

/-- The trials of a suite, and the requested names that select nothing. -/
structure Run where
  /-- The trials, in order. -/
  trials : List Trial
  /-- What the user is told about the requests. -/
  warnings : List Text
  deriving DecidableEq, Repr

/-- Runs the fixture at a path, or those in the folder at a path. -/
def run (find : Lookup) (options : Extraction.Options) (path : Text) (requested : List Text) :
    Run :=
  let suite := match find path with
    | .ok (.file _) => none
    | .ok e => some (discover e)
    | .error _ => some []
  match suite with
  | none => ⟨[attempt find options path], []⟩
  | some fs =>
      let all := categories fs
      let s := select all requested
      let selected := fs.filter fun f => s.chosen.contains f.category
      ⟨selected.map fun f => attempt find options (joinPath path f.names),
        s.unmatched.map (unmatchedWarning all)⟩

end Scenarist.Fixture
