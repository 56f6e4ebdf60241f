/-
  Cursors — how far a line has been read.

  Indentation is counted in columns, and a tab reaches to the next column that is a multiple of
  four.  A reader may take only some of a tab's columns; the cursor then owes the others, which
  count as spaces for whoever reads on.
-/
import Scenarist.Markdown.Source

namespace Scenarist.Markdown

/-- A place in a line. -/
structure Cursor where
  /-- What is left to read. -/
  rest : List Glyph
  /-- The byte at which the rest starts. -/
  pos : Nat
  /-- The column at which the rest starts, counted from the last tab stop. -/
  column : Nat
  /-- Columns of a tab that are still to be read. -/
  owed : Nat
  deriving Repr

namespace Cursor

/-- The start of a line. -/
def ofLine (l : Line) : Cursor := ⟨l.glyphs, l.start, 0, 0⟩

/-- Whether the line is read to its end. -/
def atEnd (c : Cursor) : Bool := c.rest.isEmpty

/-- Whether only spacing is left. -/
def isBlank (c : Cursor) : Bool := isBlankRest c.rest

/-- Takes up to `n` columns of spaces and tabs from glyphs that start at the given place; the first
number is how many were taken. -/
def takeColumns (pos column owed : Nat) : Nat → List Glyph → Nat × Cursor
  | _, [] => (0, ⟨[], pos, column, owed⟩)
  | n, g :: gs =>
      if n = 0 then (0, ⟨g :: gs, pos, column, owed⟩)
      else if g.char = ' ' then
        let (taken, c) := takeColumns (pos + 1) (column + 1) 0 (n - 1) gs
        (taken + 1, c)
      else if g.char = '\t' then
        let reach := 4 - column % 4
        let here := min n reach
        let (taken, c) := takeColumns (pos + 1) (column + reach) (reach - here) (n - here) gs
        (taken + here, c)
      else (0, ⟨g :: gs, pos, column, owed⟩)

/-- Reads up to `n` columns of indentation; the first number is how many there were. -/
def readSpaces (n : Nat) (c : Cursor) : Nat × Cursor :=
  let paid := min n c.owed
  let (taken, d) := takeColumns c.pos c.column (c.owed - paid) (n - paid) c.rest
  (paid + taken, d)

/-- Reads one glyph. -/
def advance (c : Cursor) : Cursor :=
  match c.rest with
  | [] => c
  | g :: gs => { c with rest := gs, pos := g.stop, column := c.column + 1 }

/-- Reads `n` glyphs. -/
def advanceBy : Nat → Cursor → Cursor
  | 0, c => c
  | n + 1, c => advanceBy n c.advance

/-- Reads all the spacing that comes next. -/
def skipSpacing (c : Cursor) : Cursor :=
  { c.advanceBy (c.rest.takeWhile fun g => isSpacing g.char).length with owed := 0 }

/-- Reads a quote mark and the space after it. -/
def quoteMark? (c : Cursor) : Option Cursor :=
  match c.rest with
  | g :: _ => if g.char = '>' then some (c.advance.readSpaces 1).2 else none
  | [] => none

end Cursor

end Scenarist.Markdown
