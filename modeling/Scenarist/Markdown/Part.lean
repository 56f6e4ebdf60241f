/-
  Parts — the tree of a Markdown document.

  1. Leaves are paragraphs, headings, rules, code, HTML and tables; quotes and lists stand around
     further parts.  Every part knows its stretch of the source.

  2. Code and HTML are taken as they stand, piece by piece: a `Raw` piece is a line or several, and
     what is left out between two pieces are the marks and the indentation of the frames around.

  3. The type of the content is a parameter: layout gives parts whose content are `Passage`s, and
     once all definitions of the document are known, `Part.map` reads them.
-/
import Scenarist.Markdown.Inline.Read

namespace Scenarist.Markdown

/-- A cell of a table. -/
structure Cell (α : Type) where
  /-- Where the cell stands. -/
  span : Span
  /-- What it holds. -/
  content : α
  deriving Repr

/-- A row of a table. -/
structure Row (α : Type) where
  /-- Where the row stands. -/
  span : Span
  /-- Its cells. -/
  cells : List (Cell α)
  deriving Repr

/-- A piece of a block that is taken as it stands. -/
inductive Raw where
  /-- Text; spaces that stand for a part of a tab take no place. -/
  | text (span : Span) (t : Text)
  /-- A line of HTML. -/
  | html (span : Span)
  deriving DecidableEq, Repr

mutual

/-- A part of a document. -/
inductive Part (α : Type) where
  /-- A paragraph. -/
  | paragraph (span : Span) (content : α)
  /-- What stands in an item of a tight list without being a paragraph. -/
  | plain (content : α)
  /-- A heading. -/
  | heading (span : Span) (level : Nat) (content : α)
  /-- A rule across the page. -/
  | rule (span : Span)
  /-- Code, indented or fenced. -/
  | code (span : Span) (pieces : List Raw)
  /-- A block of HTML. -/
  | html (span : Span) (pieces : List Raw)
  /-- A table: its header row and the rows below. -/
  | table (span : Span) (head : Row α) (rows : List (Row α))
  /-- A quote. -/
  | quote (span : Span) (parts : List (Part α))
  /-- A list, bulleted or numbered from its start. -/
  | list (span : Span) (start : Option Nat) (items : List (Item α))
  deriving Repr

/-- An item of a list. -/
inductive Item (α : Type) where
  /-- An item and its parts. -/
  | mk (span : Span) (parts : List (Part α))
  deriving Repr

end

variable {α β : Type}

/-- The row with its contents changed. -/
def Row.map (f : α → β) (r : Row α) : Row β :=
  ⟨r.span, r.cells.map fun c => ⟨c.span, f c.content⟩⟩

mutual

/-- The part with its contents changed. -/
def Part.map (f : α → β) : Part α → Part β
  | .paragraph s a => .paragraph s (f a)
  | .plain a => .plain (f a)
  | .heading s n a => .heading s n (f a)
  | .rule s => .rule s
  | .code s pieces => .code s pieces
  | .html s pieces => .html s pieces
  | .table s head rows => .table s (head.map f) (rows.map (Row.map f))
  | .quote s parts => .quote s (mapParts f parts)
  | .list s start items => .list s start (mapItems f items)

/-- The item with its contents changed. -/
def Item.map (f : α → β) : Item α → Item β
  | .mk s parts => .mk s (mapParts f parts)

/-- Parts with their contents changed. -/
def mapParts (f : α → β) : List (Part α) → List (Part β)
  | [] => []
  | p :: ps => p.map f :: mapParts f ps

/-- Items with their contents changed. -/
def mapItems (f : α → β) : List (Item α) → List (Item β)
  | [] => []
  | i :: is => i.map f :: mapItems f is

end

/-- The part as it stands in an item of a tight list, where paragraphs are plain. -/
def Part.tighten : Part α → Part α
  | .paragraph _ a => .plain a
  | p => p

/-- The item as it stands in a tight list. -/
def Item.tighten : Item α → Item α
  | .mk s parts => .mk s (parts.map Part.tighten)

end Scenarist.Markdown
