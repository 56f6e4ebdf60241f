/-
  Entries — the text of a feature as the list of what it is put together from.

  1. An entry is a row of cells or some other text.  `entries o` lists those of an outline from top to
     bottom: the title, the comments, the background, and for each scenario its name and what its
     elements give.  A table gives its rows, a bullet its value and, where no bullet stands before it,
     its header first.

  2. The renderer joins parts that are joined from smaller parts.  Joining is the same at every
     level, so the lines of the text are the lines of the entries, one after the other
     (`lines_compose`).
-/
import Scenarist.Feature.Render
import Scenarist.Proofs.Text.Split

namespace Scenarist.Feature

/-- One entry of the text of a feature. -/
inductive Entry where
  /-- A row of cells. -/
  | row (cells : List Text)
  /-- Any other text. -/
  | other (text : Text)
  deriving DecidableEq

/-- What is printed for an entry. -/
def Entry.text : Entry → Text
  | .row cells => rowLine cells
  | .other text => text

/-- The lines of an entry. -/
def Entry.lines (e : Entry) : List Text := Text.lines e.text

/-- The lines of some entries. -/
def entryLines (es : List Entry) : List Text := es.flatMap Entry.lines

/-- The entries of an element that stands after `previous`. -/
def elementEntries (previous : Option Element) : Element → List Entry
  | .step text => [.other (Text.indent 2 text)]
  | .comment text => [.other (Text.indent 2 ('#' :: text))]
  | .table t => if t.rows = [] then [.other []] else t.rows.map .row
  | .bullet header value =>
      if previous.any isBullet then [.row [value]] else [.row [header], .row [value]]

/-- The entries of elements, the first of which stands after `previous`. -/
def elementEntriesAfter (previous : Option Element) : List Element → List Entry
  | [] => []
  | e :: es => elementEntries previous e ++ elementEntriesAfter (some e) es

/-- The entries of a scenario. -/
def scenarioEntries (s : Scenario) : List Entry :=
  [.other [], .other ("Scenario: ".toList ++ s.name)]
    ++ elementEntriesAfter none (dropRepeats s.elements)

/-- The entries of the background. -/
def backgroundEntries (steps : List Text) : List Entry :=
  if steps = [] then []
  else [.other [], .other "Background:".toList] ++ steps.map fun step => .other (Text.indent 2 step)

/-- The entries of a feature. -/
def entries (o : Outline) : List Entry :=
  [.other ("Feature: ".toList ++ o.title)] ++ o.comments.map .other
    ++ backgroundEntries o.background ++ o.scenarios.flatMap scenarioEntries

/-! ## Lines of entries -/

@[simp] theorem entryLines_nil : entryLines [] = [] := rfl

@[simp] theorem entryLines_cons (e : Entry) (es : List Entry) :
    entryLines (e :: es) = e.lines ++ entryLines es := rfl

@[simp] theorem entryLines_append (es fs : List Entry) :
    entryLines (es ++ fs) = entryLines es ++ entryLines fs := List.flatMap_append

theorem entryLines_map {α : Type} (f : α → Entry) (xs : List α) :
    entryLines (xs.map f) = xs.flatMap fun x => (f x).lines := List.flatMap_map ..

theorem entryLines_flatMap {α : Type} (f : α → List Entry) (xs : List α) :
    entryLines (xs.flatMap f) = xs.flatMap fun x => entryLines (f x) := List.flatMap_assoc ..

/-- The lines of an element are those of its entries. -/
theorem lines_elementText (previous : Option Element) (e : Element) :
    Text.lines (elementText previous e) = entryLines (elementEntries previous e) := by
  cases e with
  | step text => simp [elementText, elementEntries, Entry.lines, Entry.text]
  | comment text => simp [elementText, elementEntries, Entry.lines, Entry.text]
  | table t =>
    rw [elementText, elementEntries]
    by_cases hrows : t.rows = []
    · rw [if_pos hrows, hrows]
      rfl
    · rw [if_neg hrows, Text.lines_unlines_flatMap (by simpa using hrows), entryLines_map,
        List.flatMap_map]
      rfl
  | bullet header value =>
    rw [elementText, elementEntries]
    split
    · simp [Entry.lines, Entry.text]
    · rw [Text.lines_unlines_flatMap (List.cons_ne_nil _ _)]
      rfl

theorem flatMap_lines_elementTextsAfter (previous : Option Element) (es : List Element) :
    (elementTextsAfter previous es).flatMap Text.lines
      = entryLines (elementEntriesAfter previous es) := by
  induction es generalizing previous with
  | nil => rfl
  | cons e es ih =>
    rw [elementTextsAfter, elementEntriesAfter, List.flatMap_cons, ih, lines_elementText,
      entryLines_append]

/-- A text after a blank line. -/
theorem lines_feed (t : Text) : Text.lines ('\n' :: t) = [] :: Text.lines t :=
  Text.lines_append_feed [] t

theorem lines_scenarioText (s : Scenario) :
    Text.lines (scenarioText s) = entryLines (scenarioEntries s) := by
  have hname : Text.lines ("\nScenario: ".toList ++ s.name)
      = [] :: Text.lines ("Scenario: ".toList ++ s.name) := lines_feed _
  rw [scenarioText, Text.lines_unlines_flatMap (List.cons_ne_nil _ _), List.flatMap_cons, hname,
    elementTexts, flatMap_lines_elementTextsAfter]
  rfl

theorem lines_backgroundText (steps : List Text) :
    Text.lines (backgroundText steps)
      = [] :: "Background:".toList :: steps.flatMap fun step => Text.lines (Text.indent 2 step) := by
  rw [backgroundText, Text.lines_unlines_flatMap (List.cons_ne_nil _ _), List.flatMap_cons,
    List.flatMap_map]
  rfl

/-- **The lines of a feature** are those of its entries, from top to bottom. -/
theorem lines_compose (o : Outline) : Text.lines (compose o) = entryLines (entries o) := by
  have hcomments : (if o.comments.isEmpty then [] else [Text.unlines o.comments]).flatMap Text.lines
      = entryLines (o.comments.map .other) := by
    rw [entryLines_map]
    by_cases h : o.comments = []
    · simp [h]
    · rw [if_neg (by simpa using h), List.flatMap_singleton, Text.lines_unlines_flatMap h]
      rfl
  have hbackground :
      (if o.background.isEmpty then [] else [backgroundText o.background]).flatMap Text.lines
        = entryLines (backgroundEntries o.background) := by
    rw [backgroundEntries]
    by_cases h : o.background = []
    · simp [h]
    · rw [if_neg (by simpa using h), if_neg h, List.flatMap_singleton, lines_backgroundText,
        entryLines_append, entryLines_map]
      rfl
  have hscenarios :
      (if o.scenarios.isEmpty then [] else [Text.unlines (o.scenarios.map scenarioText)]).flatMap
          Text.lines
        = entryLines (o.scenarios.flatMap scenarioEntries) := by
    rw [entryLines_flatMap]
    by_cases h : o.scenarios = []
    · simp [h]
    · rw [if_neg (by simpa using h), List.flatMap_singleton,
        Text.lines_unlines_flatMap (by simpa using h), List.flatMap_map]
      simp only [lines_scenarioText]
  have hparts : parts o ≠ [] := by simp [parts]
  rw [compose, Text.lines_unlines_flatMap hparts, parts, List.flatMap_append, List.flatMap_append,
    List.flatMap_append, hcomments, hbackground, hscenarios, entries, entryLines_append,
    entryLines_append, entryLines_append]
  rfl

end Scenarist.Feature
