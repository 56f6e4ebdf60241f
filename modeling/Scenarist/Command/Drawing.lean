/-
  Drawings — diagnostics as the user sees them.

  The line on which the span starts is shown with its number, and marks under the characters of the
  span that stand on it.  Tabs reach to the next column that is a multiple of four.
-/
import Scenarist.Page.Diagnostic
import Scenarist.Text.Number

namespace Scenarist

namespace Drawing

/-- A place in a source. -/
structure Place where
  /-- The number of its line. -/
  line : Nat
  /-- What stands before it on its line. -/
  before : Text
  /-- The source from there on. -/
  rest : Text
  deriving DecidableEq, Repr

/-- The place of a byte.  The text starts at the byte `pos` on the line `line`, and `before` is what
stands before it on that line, last first. -/
def placeOf (byte pos line : Nat) (before : Text) : Text → Place
  | [] => ⟨line, before.reverse, []⟩
  | c :: t =>
      if byte ≤ pos then ⟨line, before.reverse, c :: t⟩
      else if c = '\n' then placeOf byte (pos + 1) (line + 1) [] t
      else placeOf byte (pos + c.utf8Size) line (c :: before) t

/-- The characters at the front of a text that start within so many bytes. -/
def within : Nat → Text → Text
  | 0, _ => []
  | _, [] => []
  | n + 1, c :: t => c :: within (n + 1 - c.utf8Size) t

/-- A text with its tabs as spaces, from a column on. -/
def expandTabs (column : Nat) : Text → Text
  | [] => []
  | c :: t =>
      let width := if c = '\t' then 4 - column % 4 else 1
      List.replicate width (if c = '\t' then ' ' else c) ++ expandTabs (column + width) t

/-- A line without the ends that are not shown. -/
def trimLine (t : Text) : Text := (t.reverse.dropWhile fun c => c = '\r' || c = '\x00').reverse

end Drawing

open Drawing in
/-- The lines that show a diagnostic about a source with a name. -/
def Diagnostic.draw (d : Diagnostic) (name source : Text) : List Text :=
  let place := placeOf d.span.first 0 1 [] source
  let restOfLine := place.rest.takeWhile (· != '\n')
  let number := Text.ofNat place.line
  let gutter := List.replicate (number.length + 1) ' '
  let shown := expandTabs 0 (trimLine (place.before ++ restOfLine))
  let column := (expandTabs 0 place.before).length
  let marked := within (d.span.stop - d.span.first) restOfLine
  let marks := max 1 (expandTabs column marked).length
  let label := if d.label.isEmpty then [] else ' ' :: d.label
  [ d.severity.name ++ ": ".toList ++ d.message,
    gutter ++ "┌─ ".toList ++ name ++ [':'] ++ number ++ [':']
      ++ Text.ofNat (place.before.length + 1),
    gutter ++ ['│'],
    number ++ " │ ".toList ++ shown,
    gutter ++ "│ ".toList ++ List.replicate column ' ' ++ List.replicate marks '^' ++ label,
    gutter ++ ['│'] ]
    ++ d.notes.map (fun note => gutter ++ "= ".toList ++ note) ++ [[]]

/-! ## Examples -/

example : (Diagnostic.draw ⟨.error, "m".toList, 0, ⟨2, 4⟩, "l".toList, []⟩ "f".toList
      "é\tx\n".toList).drop 3 = ["1 │ é   x".toList, "  │  ^^^^ l".toList, "  │".toList, []] := by
  decide +kernel

end Scenarist
