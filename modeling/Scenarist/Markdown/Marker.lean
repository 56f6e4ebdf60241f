/-
  Markers — what the front of a line, once its indentation is read, can announce: an item, a rule,
  a heading, a fence, the delimiter row of a table.
-/
import Scenarist.Markdown.Cursor
import Scenarist.Text.Number
import Scenarist.Text.Punctuation

namespace Scenarist.Markdown

/-! ## Rules and headings -/

/-- Whether a line is a rule: three or more of one mark, with spaces and tabs between. -/
def isRule (gs : List Glyph) : Bool :=
  match gs.head? with
  | none => false
  | some g =>
      let c := g.char
      (c == '*' || c == '-' || c == '_')
        && (gs.all fun h => h.char == c || h.char == ' ' || h.char == '\t')
        && 3 ≤ (gs.filter fun h => h.char == c).length

/-- The level of a heading whose marks stand at the front of its line. -/
def headingLevel? (gs : List Glyph) : Option Nat :=
  let n := countOf '#' gs
  if 1 ≤ n && n ≤ 6 && ((gs.drop n).head?.all fun g => isSpacing g.char) then some n else none

/-- The content of such a heading: without its marks and without a closing run of marks that
stands alone or after spacing. -/
def headingContent (level : Nat) (gs : List Glyph) : List Glyph :=
  let body := trimSpacingEnd ((gs.drop level).dropWhile fun g => isSpacing g.char)
  let front := (body.reverse.dropWhile fun g => g.char == '#').reverse
  if front.isEmpty then []
  else if isSpacing ((front.getLast?.map Glyph.char).getD 'x') then trimSpacingEnd front
  else body

/-- The level that an underline gives to the paragraph above it. -/
def underlineLevel? (gs : List Glyph) : Option Nat :=
  match gs.head? with
  | none => none
  | some g =>
      let level := if g.char = '=' then some 1 else if g.char = '-' then some 2 else none
      if isBlankRest (gs.drop (countOf g.char gs)) then level else none

/-! ## Fences -/

/-- The mark and the length of an opening fence. -/
def fence? (gs : List Glyph) : Option (Char × Nat) :=
  match gs.head? with
  | none => none
  | some g =>
      let c := g.char
      let n := countOf c gs
      if (c == '\x60' || c == '~') && 3 ≤ n
          && !(c == '\x60' && (gs.drop n).any fun h => h.char == c) then some (c, n)
      else none

/-- Whether a line closes a fence: at least as many marks, and only spaces after them. -/
def closesFence (mark : Char) (length : Nat) (gs : List Glyph) : Bool :=
  let n := countOf mark gs
  length ≤ n && (gs.drop n).all fun g => g.char == ' '

/-! ## Items -/

/-- The mark of a list item. -/
structure ItemMark where
  /-- The bullet, or the character after the number. -/
  sign : Char
  /-- The number of an item of a numbered list. -/
  number : Option Nat
  /-- How many glyphs the mark has. -/
  length : Nat
  deriving DecidableEq, Repr

/-- Whether a character is a bullet. -/
def isBulletSign (c : Char) : Bool := c == '-' || c == '+' || c == '*'

/-- The item mark at the front of a line, which a space, a tab or the end of the line follows. -/
def itemMark? (gs : List Glyph) : Option ItemMark :=
  let digits := chars (gs.takeWhile fun g => g.char.isDigit)
  let found : Option ItemMark :=
    match (gs.drop digits.length).head? with
    | none => none
    | some g =>
        if digits.isEmpty then
          if isBulletSign g.char then some ⟨g.char, none, 1⟩ else none
        else if digits.length ≤ 9 && (g.char == '.' || g.char == ')') then
          some ⟨g.char, some (Text.numeral 10 digits), digits.length + 1⟩
        else none
  found.filter fun m => (gs.drop m.length).head?.all fun g => g.char == ' ' || g.char == '\t'

/-- Reads an item mark that starts after `outer` columns of indentation: the mark, the indentation
of the item's content, and the place where that content starts. -/
def Cursor.itemMark? (outer : Nat) (c : Cursor) : Option (ItemMark × Nat × Cursor) :=
  if isRule c.rest then none
  else
    match Markdown.itemMark? c.rest with
    | none => none
    | some m =>
        let after := ((c.advanceBy m.length).readSpaces 1).2
        let indent := outer + m.length + 1
        if after.isBlank then some (m, indent, after)
        else
          let (more, content) := after.readSpaces 4
          if more < 4 then some (m, indent + more, content) else some (m, indent, after)

/-- Whether an item mark may interrupt a paragraph: its item has content, and a number is one. -/
def interruptsParagraph (gs : List Glyph) (m : ItemMark) : Bool :=
  m.number.all (· == 1) && !isBlankRest (gs.drop m.length)

/-! ## Tables -/

/-- The number of columns that a delimiter row announces, after its first bar; `begun` says whether
a column has begun and `dashed` whether it has a dash. -/
def delimiterColumns? (begun dashed : Bool) : Text → Option Nat
  | [] => if begun then (if dashed then some 1 else none) else some 0
  | c :: t =>
      if c = ' ' then delimiterColumns? begun dashed t
      else if c = ':' then delimiterColumns? true dashed t
      else if c = '-' then delimiterColumns? true true t
      else if c = '|' then
        if dashed then (delimiterColumns? false false t).map (· + 1) else none
      else none

/-- The number of columns of a table, read off its delimiter row. -/
def Cursor.tableColumns? (c : Cursor) : Option Nat :=
  let (n, c) := c.readSpaces 4
  let t := chars c.rest
  if n = 4 || !t.any (· == '|') then none
  else
    let columns := match t with
      | '|' :: u => delimiterColumns? false false u
      | _ => delimiterColumns? false false t
    columns.filter (· != 0)

/-- How many glyphs at the front of a row of cells are escaped there: a backslash takes the
punctuation after it along, and two backslashes take a bar. -/
def escapeLength (gs : List Glyph) : Nat :=
  match gs with
  | a :: b :: rest =>
      if a.char = '\\' && Text.isAsciiPunctuation b.char then
        match rest with
        | c :: _ => if b.char = '\\' && c.char = '|' then 3 else 2
        | [] => 2
      else 0
  | _ => 0

/-- What stands after each bar that divides cells, which is each that no backslash escapes. -/
def dividingBars : List Glyph → List (List Glyph)
  | [] => []
  | g :: gs =>
      if g.char = '\\' && (gs.head?.any fun h => Text.isAsciiPunctuation h.char) then
        dividingBars (gs.drop 1)
      else if g.char = '|' then gs :: dividingBars gs
      else dividingBars gs
termination_by gs => gs.length
decreasing_by all_goals (simp only [List.length_drop, List.length_cons]; omega)

/-- What stands after each bar that has no backslash right before it. -/
def bareBars (escaped : Bool) : List Glyph → List (List Glyph)
  | [] => []
  | g :: gs =>
      let later := bareBars (g.char == '\\') gs
      if g.char = '|' && !escaped then gs :: later else later

/-- The number of cells of a header row whose dividing bars are given by what follows them: a bar
at either end divides nothing. -/
def headerColumns (bars : List (List Glyph)) (gs : List Glyph) : Nat :=
  let leading := (gs.dropWhile fun g => isSpacing g.char).head?.any fun g => g.char == '|'
  let inner := if leading then bars.length - 1 else bars.length
  if bars.getLast?.any isBlankRest then inner else inner + 1

end Scenarist.Markdown
