/-
  Layout — from the lines of a document to its parts.

  1. A line goes on with the open frames, as far as it can, and the others end.  Then it may open
     further quotes and items.  What is left of it is blank or starts a leaf.

  2. A leaf takes the line it starts on and perhaps lines after it: code up to its closing fence or
     the end of its indentation, HTML up to its end, a table up to the first line that is no row,
     and a paragraph up to the first line that starts something else.  A paragraph goes on even
     with a line that leaves the frames out.

  3. Definitions at the front of a paragraph are taken out of it.
-/
import Scenarist.Markdown.Frame

namespace Scenarist.Markdown

/-! ## Lines in parts -/

/-- Lines, each with what it adds, as one passage; `line` is the line before them. -/
def joinLines (line : Line) : List (Line × List Glyph) → List Glyph
  | [] => []
  | (next, gs) :: more => ⟨'\n', line.ending⟩ :: gs ++ joinLines next more

/-! ## Pieces -/

/-- The text of a line from a place on, with the line ending as a line feed.  A carriage return
before a line feed is left out, so the two stand apart. -/
def Line.stretches (line : Line) (pos : Nat) (gs : List Glyph) : List (Span × Text) :=
  if line.stop = line.ending + 2 then
    [(⟨pos, line.ending⟩, chars gs), (⟨line.ending + 1, line.stop⟩, ['\n'])]
  else [(⟨pos, line.stop⟩, chars gs ++ if line.ending < line.stop then ['\n'] else [])]

/-- Spaces that stand at a place without taking any. -/
def owedSpaces (pos n : Nat) : List Raw :=
  if n = 0 then [] else [.text ⟨pos, pos⟩ (List.replicate n ' ')]

/-- What is left of a line of code. -/
def Cursor.code (c : Cursor) (line : Line) : List Raw :=
  let shown := (line.stretches c.pos c.rest).filter fun (s, _) => s.first < s.stop
  owedSpaces c.pos c.owed ++ shown.map fun (s, t) => .text s t

/-- What is left of a line of HTML, after `n` spaces. -/
def Cursor.html (c : Cursor) (line : Line) (n : Nat) : List Raw :=
  owedSpaces c.pos n ++ (line.stretches c.pos c.rest).map fun (s, _) => .html s

/-- A piece before others: texts that touch are one, unless one of them takes no place. -/
def Raw.before : Raw → List Raw → List Raw
  | .text s t, .text s' t' :: pieces =>
      if s.first < s.stop && s'.first < s'.stop && s.stop == s'.first then
        .text ⟨s.first, s'.stop⟩ (t ++ t') :: pieces
      else .text s t :: .text s' t' :: pieces
  | piece, pieces => piece :: pieces

/-- Pieces of text, those that touch as one. -/
def joinPieces (pieces : List Raw) : List Raw := pieces.foldr Raw.before []

/-! ## Cells -/

/-- The glyphs up to the next bar that no backslash escapes, and the rest from that bar on.  The
number says how many glyphs are taken in any case. -/
def cutCell : Nat → List Glyph → List Glyph × List Glyph
  | _, [] => ([], [])
  | n + 1, g :: gs =>
      let (cell, rest) := cutCell n gs
      (g :: cell, rest)
  | 0, g :: gs =>
      if g.char = '|' then ([], g :: gs)
      else
        let (cell, rest) := cutCell (escapeLength (g :: gs) - 1) gs
        (g :: cell, rest)

theorem cutCell_length (n : Nat) (gs : List Glyph) : (cutCell n gs).2.length ≤ gs.length := by
  induction gs generalizing n with
  | nil => simp [cutCell]
  | cons g gs ih =>
    cases n with
    | zero =>
      simp only [cutCell]
      split
      · simp
      · exact Nat.le_succ_of_le (ih _)
    | succ n => exact Nat.le_succ_of_le (ih _)

/-- The cells that come after a bar. -/
def cellsAfterBar (gs : List Glyph) : List (List Glyph) :=
  match _h : gs.dropWhile fun g => isSpacing g.char with
  | [] => []
  | g :: rest => (cutCell 0 (g :: rest)).1 :: cellsAfterBar ((cutCell 0 (g :: rest)).2.drop 1)
termination_by gs.length
decreasing_by
  have := (List.dropWhile_suffix (fun g : Glyph => isSpacing g.char) (l := gs)).length_le
  have := cutCell_length 0 (g :: rest)
  simp_all
  omega

/-- The cells of a row: bars divide them, and one may stand before the first. -/
def rowCells (gs : List Glyph) : List (List Glyph) :=
  cellsAfterBar (if (gs.head?.map Glyph.char) = some '|' then gs.drop 1 else gs)

/-- A row with so many cells: further ones are left out, and missing ones are empty. -/
def rowOf (columns : Nat) (line : Line) (gs : List Glyph) : Row Passage :=
  let cells := (rowCells gs).take columns
  let missing := List.replicate (columns - cells.length) []
  ⟨⟨(spanOf line.ending gs).first, line.stop⟩,
    (cells ++ missing).map fun gs => ⟨spanOf line.stop gs, ⟨gs, true⟩⟩⟩

namespace Layout

/-! ## Leaves over several lines -/

/-- The rest of a fenced block, up to a closing fence: its pieces, where it stops and how many lines
it takes. -/
def fenced (l : Layout) (mark : Char) (length indent stop : Nat) :
    List Line → List Raw × Nat × Nat
  | [] => ([], stop, 0)
  | line :: rest =>
      match l.inside? line with
      | none => ([], line.start, 0)
      | some c =>
          let c := (c.readSpaces indent).2
          let (more, d) := c.readSpaces (4 - indent)
          if more < 4 - indent && closesFence mark length d.rest then ([], line.ending, 1)
          else
            let (pieces, stop, n) := fenced l mark length indent line.stop rest
            (c.code line ++ pieces, stop, n + 1)

/-- The rest of an indented block: its pieces, where it stops and how many lines it takes.  Blank
lines at its end are taken but do not belong to it; `blanks` are the pieces of those that may be. -/
def indented (l : Layout) (stop : Nat) (blanks : List Raw) : List Line → List Raw × Nat × Nat
  | [] => ([], stop, 0)
  | line :: rest =>
      match l.inside? line with
      | none => ([], stop, 0)
      | some c =>
          let (n, c) := c.readSpaces 4
          if n < 4 && !c.atEnd then ([], stop, 0)
          else
            let here := c.code line
            if c.isBlank then
              let (pieces, stop, n) := indented l stop (blanks ++ here) rest
              (pieces, stop, n + 1)
            else
              let (pieces, stop, n) := indented l line.stop [] rest
              (blanks ++ here ++ pieces, stop, n + 1)

/-- The rest of a block of HTML that holds a line, up to its end: its pieces, where it stops and how
many lines it takes; `text` is what the line adds. -/
def html (l : Layout) (e : HtmlEnd) (line : Line) (text : Text) : List Line → List Raw × Nat × Nat
  | [] => ([], line.stop, 0)
  | next :: rest =>
      let goOn := fun (c : Cursor) =>
        let (pieces, stop, n) := html l e next (chars c.rest) rest
        (c.html next c.owed ++ pieces, stop, n + 1)
      match e, l.inside? next with
      | .mark m, inside =>
          if (Text.cut? m text).isSome then ([], line.stop, 0)
          else
            match inside with
            | none => ([], line.stop, 0)
            | some c => if c.pos = next.stop then ([], c.pos, 1) else goOn c
      | .blankLine, none => ([], line.stop, 0)
      | .blankLine, some c =>
          if c.atEnd then ([], line.stop, 0) else if c.isBlank then ([], c.pos, 0) else goOn c

/-! ## Tables -/

/-- The number of columns of the table that a header row opens, whose bars are given: that of the
delimiter row below it. -/
def tableColumns? (l : Layout) (bars : List (List Glyph)) (header : List Glyph) (rest : List Line) :
    Option Nat := do
  let line ← rest.head?
  let c ← l.inside? line
  let n ← c.tableColumns?
  if n = headerColumns bars header then some n else none

/-- Whether the line ends in a backslash that escapes its ending. -/
def endsEscaped (gs : List Glyph) : Bool := countOf '\\' gs.reverse % 2 == 1

/-- The number of columns of the table that a leaf's first line opens. -/
def openingColumns? (l : Layout) (gs : List Glyph) (rest : List Line) : Option Nat :=
  let bars := dividingBars gs
  if bars.isEmpty || endsEscaped gs then none else l.tableColumns? bars gs rest

/-! ## Paragraphs -/

/-- Whether a line, at most three columns indented, starts something that ends the leaf before it.
`inside` says whether the line goes on with all frames, `inTable` whether the leaf is a table. -/
def interrupts (inside inTable : Bool) (gs : List Glyph) : Bool :=
  gs.isEmpty || isRule gs || (headingLevel? gs).isSome || (fence? gs).isSome
    || (gs.head?.any fun g => g.char == '>')
    || ((itemMark? gs).any fun m => !inside || inTable || interruptsParagraph gs m)
    || (HtmlEnd.interrupting? (chars gs)).isSome

/-- What a line does with the paragraph before it. -/
inductive Next where
  /-- It is no part of the paragraph. -/
  | ends
  /-- It makes the paragraph a heading. -/
  | underlines (level : Nat)
  /-- It adds to the paragraph. -/
  | adds (glyphs : List Glyph)

/-- Whether a line opens a table although a paragraph stands before it: it must start with a bar. -/
def opensTable (l : Layout) (gs : List Glyph) (rest : List Line) : Bool :=
  (gs.head?.any fun g => g.char == '|') && (l.tableColumns? (bareBars false gs) gs rest).isSome

/-- What a line does with the paragraph before it; `rest` are the lines after it. -/
def next (l : Layout) (line : Line) (rest : List Line) : Next :=
  let (n, c) := l.enter line
  let inside := n == l.frames.length
  let (indent, d) := c.readSpaces 4
  if d.isBlank then .ends
  else if indent = 4 then .adds c.rest
  else
    match if inside then underlineLevel? d.rest else none with
    | some level => .underlines level
    | none =>
        if interrupts inside false d.rest || l.opensTable d.rest rest then .ends else .adds c.rest

/-- The lines that add to a paragraph, each with what it adds, and the underline after them. -/
def continuation (l : Layout) : List Line → List (Line × List Glyph) × Option Nat
  | [] => ([], none)
  | line :: rest =>
      match l.next line rest with
      | .ends => ([], none)
      | .underlines level => ([], some level)
      | .adds gs =>
          let (more, underline) := l.continuation rest
          ((line, gs) :: more, underline)

/-- The rows below a delimiter row, each with the line it stands on. -/
def rows (l : Layout) : List Line → List (Line × List Glyph)
  | [] => []
  | line :: rest =>
      match l.inside? line with
      | none => []
      | some c =>
          let gs := c.skipSpacing.rest
          if interrupts true true gs || (rowCells gs).isEmpty then [] else (line, gs) :: rows l rest

/-! ## One line -/

/-- What a line starts: a part, or a definition. -/
inductive Found where
  /-- A part. -/
  | part (p : Part Passage)
  /-- A definition. -/
  | definition (d : Definition)

/-- What a paragraph's first line starts, and how many further lines belong to it. -/
def paragraph (l : Layout) (line : Line) (c : Cursor) (rest : List Line) : Found × Nat :=
  let gs := c.rest
  match l.openingColumns? gs rest with
  | some columns =>
      let below := l.rows (rest.drop 1)
      let last := ((line :: rest).drop (1 + below.length)).head?.getD line
      (.part (.table ⟨c.pos, last.stop⟩ (rowOf columns line gs)
        (below.map fun (line, gs) => rowOf columns line gs)), 1 + below.length)
  | none =>
      let (more, underline) := l.continuation rest
      let all := gs ++ joinLines line more
      let found := if (gs.head?.any fun g => g.char == '[') then definition? (chars all) else none
      match found with
      | some (d, after) =>
          let left := match after with
            | none => 0
            | some t => 1 + (t.filter (· == '\n')).length
          (.definition d, more.length - left)
      | none =>
          let last := (more.getLast?.map Prod.fst).getD line
          match underline with
          | none => (.part (.paragraph ⟨c.pos, last.stop⟩ ⟨all, false⟩), more.length)
          | some level =>
              let under := ((rest.drop more.length).head?).getD last
              (.part (.heading ⟨c.pos, under.stop⟩ level ⟨all, false⟩), more.length + 1)

/-- What a line starts that is not blank, and how many further lines belong to it. -/
def leaf (l : Layout) (line : Line) (c : Cursor) (rest : List Line) : Found × Nat :=
  let (indent, d) := c.readSpaces 4
  let gs := d.rest
  if indent = 4 then
    let (pieces, stop, n) := l.indented line.stop [] rest
    (.part (.code ⟨d.pos, stop⟩ (joinPieces (d.code line ++ pieces))), n)
  else
    match HtmlEnd.ofLine? (chars gs) with
    | some e =>
        let (pieces, stop, n) := l.html e line (chars gs) rest
        (.part (.html ⟨d.pos, stop⟩ (d.html line indent ++ pieces)), n)
    | none =>
        if isRule gs then (.part (.rule ⟨d.pos, line.stop⟩), 0)
        else
          match headingLevel? gs, fence? gs with
          | some level, _ =>
              (.part (.heading ⟨d.pos, line.stop⟩ level ⟨headingContent level gs, false⟩), 0)
          | none, some (mark, length) =>
              let (pieces, stop, n) := l.fenced mark length indent line.stop rest
              (.part (.code ⟨d.pos, stop⟩ (joinPieces pieces)), n)
          | none, none => l.paragraph line d rest

/-- Opens the quotes and items that a line starts with, and gives what is left of the line; none if
the line ends with the mark of an item.  Each mark takes a glyph, so as many as there are glyphs
may be opened. -/
def openMarks (line : Line) : Nat → Layout → Cursor → Layout × Option Cursor
  | 0, l, c => (l, some c)
  | fuel + 1, l, c =>
      let (outer, d) := c.readSpaces 4
      if outer = 4 then (l, some c)
      else
        match d.itemMark? outer with
        | some (m, indent, after) =>
            let l := l.openItem m (d.pos - outer) indent
            if after.isBlank then ({ l with freshItem := some line.stop }, none)
            else openMarks line fuel l after
        | none =>
            match d.quoteMark? with
            | some after => openMarks line fuel ((l.endList line.start).openQuote d.pos) after
            | none => (l, some c)

/-- Lays out one line, and perhaps lines after it; the number says how many of those. -/
def line (l : Layout) (line : Line) (rest : List Line) : Layout × Nat :=
  let (n, c) := l.enter line
  let l := l.closeFrames line.start (l.frames.length - n)
  match openMarks line c.rest.length l c with
  | (l, none) => (l, 0)
  | (l, some c) =>
      if c.isBlank then (l.blank, 0)
      else
        let l := l.endList line.start
        match l.leaf line c rest with
        | (.part p, n) => (l.add p, n)
        | (.definition d, n) => ({ l with definitions := d :: l.definitions }, n)

/-- Lays out lines. -/
def lines (l : Layout) : List Line → Layout
  | [] => l
  | line :: rest =>
      let (l, n) := l.line line rest
      l.lines (rest.drop n)
termination_by ls => ls.length
decreasing_by
  simp only [List.length_drop, List.length_cons]
  omega

end Layout

/-! ## Documents -/

/-- The parts of a document. -/
def document (source : Text) : List (Part (List Inline)) :=
  let l := ({} : Layout).lines (sourceLines 0 source)
  mapParts (Passage.read l.definitions.reverse) (l.finish (byteLength source))

end Scenarist.Markdown
