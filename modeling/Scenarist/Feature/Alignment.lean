/-
  Alignment — the columns of pipe tables lined up.

  1. A line is a row when, trimmed, it starts and ends with a bar.  A run is a longest stretch of
     rows; other lines pass unchanged.

  2. A run keeps the indentation of its first row.  Each column is as wide as its longest cell,
     counted in characters; rows may have different numbers of cells.
-/
import Scenarist.Feature.Render

namespace Scenarist.Alignment

/-! ## Rows -/

/-- Whether a line is a row. -/
def isRow (line : Text) : Bool :=
  let t := Text.trim line
  t.head? == some '|' && t.getLast? == some '|'

/-- The blanks that a line starts with. -/
def indentation (line : Text) : Text := line.takeWhile Text.isBlank

/-- What stands between the outer bars of a row; nothing for a bar on its own. -/
def inside (line : Text) : Text := (Text.trim line).tail.dropLast

/-- The cells of a row, trimmed. -/
def cells (line : Text) : List Text := (Text.splitWhere (· == '|') (inside line)).map Text.trim

/-! ## Columns -/

/-- The widths of columns that hold both the given widths and those of one more row. -/
def widen : List Nat → List Nat → List Nat
  | [], row => row
  | ws, [] => ws
  | w :: ws, n :: row => max w n :: widen ws row

/-- The width of each column of some rows of cells. -/
def widths (rows : List (List Text)) : List Nat :=
  rows.foldl (fun ws row => widen ws (row.map List.length)) []

/-- A cell filled up with spaces to a width. -/
def padCell (cell : Text) (width : Nat) : Text :=
  cell ++ List.replicate (width - cell.length) ' '

/-- The line of a row of cells, in columns of the given widths. -/
def alignedRow (indent : Text) (ws : List Nat) (row : List Text) : Text :=
  indent ++ Feature.row (List.zipWith padCell row ws)

/-- The lines of a run of rows. -/
def alignedRun (run : List Text) : List Text :=
  let rows := run.map cells
  let indent := indentation (run.headD [])
  rows.map (alignedRow indent (widths rows))

/-! ## Texts -/

/-- Lines with every run of rows aligned. -/
def alignLines : List Text → List Text
  | [] => []
  | line :: rest =>
      if isRow line then
        alignedRun (line :: rest.takeWhile isRow) ++ alignLines (rest.dropWhile isRow)
      else line :: alignLines rest
termination_by ls => ls.length
decreasing_by
  · have := (List.dropWhile_suffix (p := isRow) (l := rest)).length_le
    simp only [List.length_cons]
    omega
  · simp

/-- A text with every run of rows aligned. -/
def align (t : Text) : Text := Text.unlines (alignLines (Text.lines t))

/-- What is shown for an outline, aligned if asked for. -/
def render (o : Option Outline) (aligned : Bool) : Text :=
  if aligned then align (Feature.shown o) else Feature.shown o

/-! ## Examples -/

example : align "  | a |\n      | bbb |é|\nx".toList = "  | a   |\n  | bbb | é |\nx".toList := by
  decide +kernel

end Scenarist.Alignment
