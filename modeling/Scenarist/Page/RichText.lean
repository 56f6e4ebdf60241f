/-
  Rich text — what a quote holds, and its flat form.

  1. A node is a run of text, a span (an inline group, which adds nothing of its own), a container
     (a paragraph-like group, which ends its line) or a line break.

  2. Nodes are the same if `same` finds them so, and that can be computed.

  3. `flatten` writes the runs in order, trims the result, lets no two line breaks stand together
     and moves every line but the first two spaces right, so that it lines up under a comment mark.
-/
import Scenarist.Text.Basic

namespace Scenarist

/-- A node of a quote. -/
inductive RichNode where
  /-- A run of text. -/
  | text (run : Text)
  /-- An inline group: emphasis, a link. -/
  | span (nodes : List RichNode)
  /-- A group that ends its line: a paragraph, an item, a quote in a quote. -/
  | container (nodes : List RichNode)
  /-- A line break. -/
  | lineBreak
  deriving Repr

/-- The content of a quote. -/
abbrev RichText := List RichNode

mutual

/-- Whether two nodes are the same. -/
def RichNode.same : RichNode → RichNode → Bool
  | .text run, .text run' => run == run'
  | .span nodes, .span more => sameNodes nodes more
  | .container nodes, .container more => sameNodes nodes more
  | .lineBreak, .lineBreak => true
  | _, _ => false

/-- Whether two lists of nodes are the same. -/
def sameNodes : List RichNode → List RichNode → Bool
  | [], [] => true
  | node :: nodes, node' :: more => node.same node' && sameNodes nodes more
  | _, _ => false

end

mutual

theorem RichNode.same_iff : ∀ node node' : RichNode, node.same node' = true ↔ node = node'
  | .text _, node' => by cases node' <;> simp [RichNode.same]
  | .span nodes, node' => by
    have hnodes := sameNodes_iff nodes
    cases node' <;> simp [RichNode.same, hnodes]
  | .container nodes, node' => by
    have hnodes := sameNodes_iff nodes
    cases node' <;> simp [RichNode.same, hnodes]
  | .lineBreak, node' => by cases node' <;> simp [RichNode.same]

theorem sameNodes_iff : ∀ nodes more : List RichNode, sameNodes nodes more = true ↔ nodes = more
  | [], more => by cases more <;> simp [sameNodes]
  | node :: nodes, more => by
    have hfirst := node.same_iff
    have hrest := sameNodes_iff nodes
    cases more <;> simp [sameNodes, hfirst, hrest]

end

instance : DecidableEq RichNode := fun node node' => decidable_of_iff _ (node.same_iff node')

mutual

/-- The text of a node, read depth first. -/
def RichNode.spell : RichNode → Text
  | .text run => run
  | .span nodes => spellAll nodes
  | .container nodes => spellAll nodes ++ ['\n']
  | .lineBreak => ['\n']

/-- The text of a list of nodes, read depth first. -/
def RichNode.spellAll : List RichNode → Text
  | [] => []
  | node :: nodes => node.spell ++ spellAll nodes

end

theorem RichNode.spellAll_append (nodes more : RichText) :
    spellAll (nodes ++ more) = spellAll nodes ++ spellAll more := by
  induction nodes with
  | nil => rw [List.nil_append, spellAll, List.nil_append]
  | cons node nodes ih => rw [List.cons_append, spellAll, spellAll, ih, List.append_assoc]

namespace RichText

/-- Every run of line breaks reduced to its last one. -/
def collapseBreaks : Text → Text
  | [] => []
  | c :: t => if c = '\n' && t.head? == some '\n' then collapseBreaks t else c :: collapseBreaks t

/-- Two spaces after every line break. -/
def indentBreaks (t : Text) : Text :=
  t.flatMap fun c => if c = '\n' then ['\n', ' ', ' '] else [c]

/-- The flat form of a quote, as the text of a comment. -/
def flatten (nodes : RichText) : Text :=
  indentBreaks (collapseBreaks (Text.trim (RichNode.spellAll nodes)))

end RichText

/-! ## Examples -/

example : RichText.flatten [.container [.text "first".toList], .container [.text "second".toList]]
    = "first\n  second".toList := by decide +kernel

example : RichText.flatten [.container [.text "one".toList, .lineBreak], .lineBreak,
    .container [.span [.text "two".toList]]] = "one\n  two".toList := by decide +kernel

end Scenarist
