/-
  Sources — a Markdown text as lines of characters that know where they stand.

  1. Places are byte offsets in the UTF-8 form of the source.  A `Glyph` is a character with its
     place; a `Span` is a stretch of bytes.

  2. A line ends at a line feed, a carriage return, or the two together.  `sourceLines` keeps the
     ending out of the line's glyphs but not out of its extent, so the lines of a source touch.
-/
import Scenarist.Text.Basic

namespace Scenarist.Markdown

/-- The bytes from `first` up to, but without, `stop`. -/
structure Span where
  /-- The first byte. -/
  first : Nat
  /-- The byte after the last. -/
  stop : Nat
  deriving DecidableEq, Repr

/-- A character of a source and its place. -/
structure Glyph where
  /-- The character. -/
  char : Char
  /-- The byte at which it stands. -/
  pos : Nat
  deriving DecidableEq, Repr

/-- The byte after a glyph. -/
def Glyph.stop (g : Glyph) : Nat := g.pos + g.char.utf8Size

/-- The characters of some glyphs. -/
def chars (gs : List Glyph) : Text := gs.map Glyph.char

/-- The stretch that some glyphs cover; `pos` is where they would stand if there are none. -/
def spanOf (pos : Nat) (gs : List Glyph) : Span :=
  ⟨(gs.head?.map Glyph.pos).getD pos, (gs.getLast?.map Glyph.stop).getD pos⟩

/-- One line of a source. -/
structure Line where
  /-- The characters of the line, without its ending. -/
  glyphs : List Glyph
  /-- The byte at which the line starts. -/
  start : Nat
  /-- The byte at which its ending stands. -/
  ending : Nat
  /-- The byte at which the next line starts. -/
  stop : Nat
  deriving Repr

/-- The lines of a text that starts at a place. -/
def sourceLines (pos : Nat) : Text → List Line
  | [] => []
  | '\r' :: '\n' :: t => ⟨[], pos, pos, pos + 2⟩ :: sourceLines (pos + 2) t
  | c :: t =>
      if c = '\n' || c = '\r' then ⟨[], pos, pos, pos + 1⟩ :: sourceLines (pos + 1) t
      else
        let next := pos + c.utf8Size
        match sourceLines next t with
        | [] => [⟨[⟨c, pos⟩], pos, next, next⟩]
        | l :: ls => { l with glyphs := ⟨c, pos⟩ :: l.glyphs, start := pos } :: ls

/-- How many bytes the UTF-8 form of a text has. -/
def byteLength (t : Text) : Nat := t.foldr (fun c n => c.utf8Size + n) 0

/-! ## Classes of characters -/

/-- The blanks that may stand inside a line. -/
def isSpacing (c : Char) : Bool := c == ' ' || c == '\t' || c == '\x0b' || c == '\x0c'

/-- The blanks of ASCII, line endings included. -/
def isAsciiBlank (c : Char) : Bool := isSpacing c || c == '\n' || c == '\r'

/-- Whether glyphs are spacing only. -/
def isBlankRest (gs : List Glyph) : Bool := gs.all fun g => isSpacing g.char

/-- How many glyphs at the front are the character `c`. -/
def countOf (c : Char) (gs : List Glyph) : Nat := (gs.takeWhile fun g => g.char == c).length

/-- Glyphs without the spacing at their end. -/
def trimSpacingEnd (gs : List Glyph) : List Glyph :=
  (gs.reverse.dropWhile fun g => isSpacing g.char).reverse

/-! ## Examples -/

example : (sourceLines 0 "é\r\n\rx".toList).map (fun l => (chars l.glyphs, l.start, l.stop))
    = [(['é'], 0, 4), ([], 4, 5), (['x'], 5, 6)] := by decide +kernel

end Scenarist.Markdown
