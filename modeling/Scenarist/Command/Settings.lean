/-
  Settings — what a settings file may change.

  1. A settings file is a TOML document with two sections, `extract` and `output`.  Each key is
     optional, and one that is missing keeps its default.  A key that is not known is an error.

  2. A section may also be written as an array, which gives its values in order.
-/
import Scenarist.Files.Tree
import Scenarist.Outline.Extraction
import Scenarist.Toml.Document

namespace Scenarist

/-- What a settings file may change. -/
structure Settings where
  /-- The headings that the extraction goes by. -/
  options : Extraction.Options := {}
  /-- Whether the columns of tables are lined up. -/
  align : Bool := true
  deriving DecidableEq

namespace Settings

open Toml (Value)

/-- The keys of the section `extract`. -/
def extractKeys : List Text :=
  ["feature_headings".toList, "background_heading".toList, "scenarios_heading".toList,
    "default_table_header".toList]

/-- The options that a reader of fields gives; it is asked by key and place. -/
def optionsBy (field : {α : Type} → Text → Nat → (Value → Option α) → α → Option α) :
    Option Extraction.Options := do
  let d : Extraction.Options := {}
  return {
    featureHeadings := ← field "feature_headings".toList 0 Value.texts? d.featureHeadings
    backgroundHeading := ← field "background_heading".toList 1 Value.text? d.backgroundHeading
    scenariosHeading := ← field "scenarios_heading".toList 2 Value.text? d.scenariosHeading
    defaultTableHeader := ← field "default_table_header".toList 3 Value.text? d.defaultTableHeader }

/-- The value at a place of an array, read as something; the default if the array is shorter. -/
def item? {α : Type} (items : List Value) (n : Nat) (read : Value → Option α) (default : α) :
    Option α :=
  match items[n]? with
  | some v => read v
  | none => some default

/-- The section `extract`. -/
def extract? : Value → Option Extraction.Options
  | .table es =>
      if Toml.Table.hasOnly es extractKeys then optionsBy fun key _ => Toml.Table.field? es key
      else none
  | .array items => optionsBy fun _ n => item? items n
  | _ => none

/-- The section `output`: whether columns are lined up. -/
def output? : Value → Option Bool
  | .table es =>
      if Toml.Table.hasOnly es ["align_tables".toList] then
        Toml.Table.field? es "align_tables".toList Value.bool? true
      else none
  | .array items => item? items 0 Value.bool? true
  | _ => none

/-- The settings of a table. -/
def ofTable? (es : Toml.Table) : Option Settings := do
  if !Toml.Table.hasOnly es ["extract".toList, "output".toList] then none
  else
    return {
      options := ← Toml.Table.field? es "extract".toList extract? {}
      align := ← Toml.Table.field? es "output".toList output? true }

/-- The settings of a text. -/
def parse? (t : Text) : Option Settings := (Toml.parse? t).bind ofTable?

/-! ## Settings files -/

/-- Why settings cannot be loaded. -/
inductive Failure where
  /-- The file cannot be read. -/
  | unreadable (path reason : Text)
  /-- The file does not say what settings are. -/
  | malformed (path : Text)
  deriving DecidableEq, Repr

/-- What the user is told about a failure. -/
def Failure.message : Failure → Text
  | .unreadable path reason =>
      "failed to read config file at ".toList ++ path ++ ": ".toList ++ reason
  | .malformed path =>
      "failed to parse config file at ".toList ++ path ++ ": TOML parse error".toList

/-- The settings file that is read if none is named. -/
def defaultFile : Text := "featurefile.toml".toList

/-- The settings of a file; none if there is no such file. -/
def loadFile (find : Lookup) (path : Text) : Except Failure (Option Settings) :=
  match find path with
  | .error _ => .ok none
  | .ok _ =>
      match Lookup.read find path with
      | .error e => .error (.unreadable path e.message)
      | .ok t =>
          match parse? t with
          | none => .error (.malformed path)
          | some s => .ok (some s)

/-- The settings: those of the named file, which must be there, or those of the default file, or
the defaults. -/
def load (find : Lookup) : Option Text → Except Failure Settings
  | some path => do
      match ← loadFile find path with
      | some s => return s
      | none => .error (.unreadable path "file not found".toList)
  | none => do return (← loadFile find defaultFile).getD {}

end Settings

end Scenarist
