/-
  Blocks — a page as the list of its content blocks, in document order.

  A heading of level 1 carries the title of the page, levels 2 to 4 its sections.  A paragraph may
  still hold link markup and line breaks.  A table is its rows of cells, header first.
-/
import Scenarist.Page.RichText

namespace Scenarist

/-- One content block of a page. -/
inductive Block where
  /-- A heading with its level. -/
  | heading (level : Nat) (text : Text)
  /-- A quote. -/
  | quote (content : RichText)
  /-- A paragraph, as it reads on the page. -/
  | paragraph (text : Text)
  /-- One item of a bulleted list. -/
  | bullet (text : Text)
  /-- A table, row by row. -/
  | table (rows : List (List Text))
  deriving DecidableEq, Repr

/-- The name of a block's kind. -/
def Block.kind : Block → Text
  | .heading _ _ => "heading".toList
  | .quote _ => "quote".toList
  | .paragraph _ => "paragraph".toList
  | .bullet _ => "bullet item".toList
  | .table _ => "table".toList

end Scenarist
