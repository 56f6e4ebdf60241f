/-
  Events — a document as a flat sequence: what starts, what ends, and what stands between.

  1. A group gives a start, the events of its parts and a finish with the same span, so the events
     of a document are well nested.

  2. `Part.events` and `Inline.events` write the sequence.  What is plain in an item of a tight list
     gives the events of its content and nothing around them.  Code and HTML give an event for each
     of their pieces, at the place of the piece.

  3. Besides plain Markdown only tables and strikethrough are asked for.  So what other extensions
     would add is left out: task marks, mathematics, references to footnotes, definition lists, front
     matter and raised or lowered text.  No reader has a case of its own for any of them.
-/
import Scenarist.Markdown.Layout

namespace Scenarist.Markdown

/-- What starts. -/
inductive Tag where
  | paragraph
  | heading (level : Nat)
  | quote
  /-- A list; a numbered one has a start. -/
  | list (start : Option Nat)
  | item
  | code
  | html
  | table
  | tableHead
  | tableRow
  | tableCell
  /-- The definition of a footnote, which only an extension of Markdown has. -/
  | footnote
  | emphasis
  | strong
  | strikethrough
  | link (address : Text)
  | image (address : Text)
  deriving DecidableEq, Repr

/-- What ends. -/
inductive TagEnd where
  | paragraph
  | heading
  | quote
  | list
  | item
  | code
  | html
  | table
  | tableHead
  | tableRow
  | tableCell
  | footnote
  | emphasis
  | strong
  | strikethrough
  | link
  | image
  deriving DecidableEq, Repr

/-- What ends that has started with a tag. -/
def Tag.finish : Tag → TagEnd
  | .paragraph => .paragraph
  | .heading _ => .heading
  | .quote => .quote
  | .list _ => .list
  | .item => .item
  | .code => .code
  | .html => .html
  | .table => .table
  | .tableHead => .tableHead
  | .tableRow => .tableRow
  | .tableCell => .tableCell
  | .footnote => .footnote
  | .emphasis => .emphasis
  | .strong => .strong
  | .strikethrough => .strikethrough
  | .link _ => .link
  | .image _ => .image

/-- Whether a tag stands inside a line of text. -/
def Tag.isInline : Tag → Bool
  | .emphasis | .strong | .strikethrough | .link _ | .image _ => true
  | _ => false

/-- One event. -/
inductive Event where
  /-- Something starts. -/
  | start (tag : Tag)
  /-- Something ends. -/
  | finish (tag : TagEnd)
  /-- A run of text. -/
  | text (t : Text)
  /-- A span of code. -/
  | code (t : Text)
  /-- A line ending that counts as a space. -/
  | softBreak
  /-- A line ending that breaks the line. -/
  | hardBreak
  /-- HTML inside a line of text. -/
  | inlineHtml
  /-- A line of a block of HTML. -/
  | html
  /-- A rule across the page. -/
  | rule
  deriving DecidableEq, Repr

/-- An event and where it stands. -/
abbrev Located := Event × Span

/-- The events of a group around those of its parts. -/
def around (tag : Tag) (span : Span) (inner : List Located) : List Located :=
  (.start tag, span) :: inner ++ [(.finish tag.finish, span)]

/-! ## Inline content -/

/-- The event of a leaf. -/
def Leaf.event : Leaf → Event
  | .text t => .text t
  | .code t => .code t
  | .softBreak => .softBreak
  | .hardBreak => .hardBreak
  | .html => .inlineHtml

/-- The tag of a group. -/
def Group.tag : Group → Tag
  | .emphasis => .emphasis
  | .strong => .strong
  | .strikethrough => .strikethrough
  | .link a => .link a
  | .image a => .image a

mutual

/-- The events of a node of inline content. -/
def Inline.events : Inline → List Located
  | .leaf span leaf => [(leaf.event, span)]
  | .group span kind parts => around kind.tag span (inlineEvents parts)

/-- The events of inline content. -/
def inlineEvents : List Inline → List Located
  | [] => []
  | node :: nodes => node.events ++ inlineEvents nodes

end

/-! ## Parts -/

/-- The event of a piece. -/
def Raw.event : Raw → Located
  | .text span t => (.text t, span)
  | .html span => (.html, span)

/-- The events of a cell. -/
def Cell.events (c : Cell (List Inline)) : List Located :=
  around .tableCell c.span (inlineEvents c.content)

/-- The events of a row. -/
def Row.events (tag : Tag) (r : Row (List Inline)) : List Located :=
  around tag r.span (r.cells.flatMap Cell.events)

mutual

/-- The events of a part. -/
def Part.events : Part (List Inline) → List Located
  | .paragraph span content => around .paragraph span (inlineEvents content)
  | .plain content => inlineEvents content
  | .heading span level content => around (.heading level) span (inlineEvents content)
  | .rule span => [(.rule, span)]
  | .code span pieces => around .code span (pieces.map Raw.event)
  | .html span pieces => around .html span (pieces.map Raw.event)
  | .table span head rows =>
      around .table span (head.events .tableHead ++ rows.flatMap (Row.events .tableRow))
  | .quote span parts => around .quote span (partEvents parts)
  | .list span start items => around (.list start) span (itemEvents items)

/-- The events of an item. -/
def Item.events : Item (List Inline) → List Located
  | .mk span parts => around .item span (partEvents parts)

/-- The events of parts. -/
def partEvents : List (Part (List Inline)) → List Located
  | [] => []
  | p :: ps => p.events ++ partEvents ps

/-- The events of items. -/
def itemEvents : List (Item (List Inline)) → List Located
  | [] => []
  | i :: is => i.events ++ itemEvents is

end

/-- The events of a source. -/
def events (source : Text) : List Located := partEvents (document source)

end Scenarist.Markdown
