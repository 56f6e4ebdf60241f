/-
  Inline content — what a paragraph, a heading or a cell holds.

  Leaves are runs of text, code, breaks and pieces of HTML; groups are emphasis, links and images
  with the content they stand around.  Every node knows its stretch of the source.
-/
import Scenarist.Markdown.Source

namespace Scenarist.Markdown

/-- Inline content without parts. -/
inductive Leaf where
  /-- A run of text. -/
  | text (t : Text)
  /-- A span of code. -/
  | code (t : Text)
  /-- A line ending that counts as a space. -/
  | softBreak
  /-- A line ending that breaks the line. -/
  | hardBreak
  /-- A tag or another piece of HTML. -/
  | html
  deriving DecidableEq, Repr

/-- What a group of inline content is. -/
inductive Group where
  /-- Emphasis. -/
  | emphasis
  /-- Strong emphasis. -/
  | strong
  /-- Text struck out. -/
  | strikethrough
  /-- A link to an address. -/
  | link (address : Text)
  /-- An image at an address, around its description. -/
  | image (address : Text)
  deriving DecidableEq, Repr

/-- A node of inline content. -/
inductive Inline where
  /-- A node without parts. -/
  | leaf (span : Span) (leaf : Leaf)
  /-- A group around its parts. -/
  | group (span : Span) (kind : Group) (parts : List Inline)
  deriving Repr

namespace Inline

/-- One character as text. -/
def ofGlyph (g : Glyph) : Inline := .leaf ⟨g.pos, g.stop⟩ (.text [g.char])

/-- A node put before others, joined to the first of them if both are text. -/
def joinText (node : Inline) (nodes : List Inline) : List Inline :=
  match node, nodes with
  | .leaf s (.text a), .leaf t (.text b) :: rest => .leaf ⟨s.first, t.stop⟩ (.text (a ++ b)) :: rest
  | _, _ => node :: nodes

/-- Nodes in which no two runs of text stand side by side. -/
def joinTexts (nodes : List Inline) : List Inline := nodes.foldr joinText []

end Inline

end Scenarist.Markdown
