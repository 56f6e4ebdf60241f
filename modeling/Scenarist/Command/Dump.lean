/-
  Dumps — an outline shown in full, for someone who wants to see what was extracted.

  A dump is a tree of texts, lists, calls and records.  Each part stands on a line of its own, four
  spaces further right than what it belongs to, and ends with a comma; an empty list stays on one
  line.
-/
import Scenarist.Outline.Basic
import Scenarist.Text.Number

namespace Scenarist

/-- A value as it is shown. -/
inductive Dump where
  /-- A text, in quotes. -/
  | text (t : Text)
  /-- A list. -/
  | list (items : List Dump)
  /-- A name with arguments. -/
  | call (name : Text) (args : List Dump)
  /-- A name with fields. -/
  | record (name : Text) (fields : List (Text × Dump))

namespace Dump

/-! ## Lines -/

/-- A character inside quotes. -/
def escapeChar (c : Char) : Text :=
  if c = '"' || c = '\\' then ['\\', c]
  else if c = '\n' then "\\n".toList
  else if c = '\t' then "\\t".toList
  else if c = '\r' then "\\r".toList
  else if c = '\x00' then "\\0".toList
  else if c.toNat < 32 || c.toNat = 127 then
    "\\u\x7b".toList ++ Nat.toDigits 16 c.toNat ++ ['\x7d']
  else [c]

/-- A text in quotes. -/
def quoted (t : Text) : Text := '"' :: t.flatMap escapeChar ++ ['"']

/-- Lines with something put before the first of them. -/
def before (front : Text) : List Text → List Text
  | [] => [front]
  | l :: ls => (front ++ l) :: ls

/-- Lines with a comma after the last of them, moved right. -/
def asPart (ls : List Text) : List Text :=
  match ls.getLast? with
  | none => []
  | some last => (ls.dropLast ++ [last ++ [',']]).map (Text.indent 4)

mutual

/-- The lines of a dump. -/
def lines : Dump → List Text
  | .text t => [quoted t]
  | .list [] => ["[]".toList]
  | .list items => ['['] :: partLines items ++ [[']']]
  | .call name [] => [name]
  | .call name args => (name ++ ['(']) :: partLines args ++ [[')']]
  | .record name fields => (name ++ " \x7b".toList) :: fieldLines fields ++ [['\x7d']]

/-- The lines of the parts of a list or a call. -/
def partLines : List Dump → List Text
  | [] => []
  | d :: ds => asPart d.lines ++ partLines ds

/-- The lines of the fields of a record. -/
def fieldLines : List (Text × Dump) → List Text
  | [] => []
  | (name, d) :: fields => asPart (before (name ++ ": ".toList) d.lines) ++ fieldLines fields

end

/-! ## Outlines -/

/-- A list of texts. -/
def ofTexts (ts : List Text) : Dump := .list (ts.map .text)

/-- An element of a scenario. -/
def ofElement : Element → Dump
  | .step t => .call "Step".toList [.text t]
  | .comment t => .call "CommentStep".toList [.text t]
  | .table t =>
      .call "Table".toList [.record "Table".toList [("rows".toList, .list (t.rows.map ofTexts))]]
  | .bullet header value =>
      .record "MonoTable".toList [("header".toList, .text header), ("value".toList, .text value)]

/-- A scenario. -/
def ofScenario (s : Scenario) : Dump :=
  .record "Scenario".toList
    [("name".toList, .text s.name), ("elements".toList, .list (s.elements.map ofElement))]

/-- An outline. -/
def ofOutline (o : Outline) : Dump :=
  .record "Outline".toList
    [("title".toList, .text o.title), ("background".toList, ofTexts o.background),
      ("scenarios".toList, .list (o.scenarios.map ofScenario)),
      ("comments".toList, ofTexts o.comments)]

/-- The outline of a page, which may have none. -/
def ofOutline? : Option Outline → Dump
  | none => .call "None".toList []
  | some o => .call "Some".toList [ofOutline o]

end Dump

end Scenarist
