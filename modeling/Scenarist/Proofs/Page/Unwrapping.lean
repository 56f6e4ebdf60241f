/-
  Unwrapping — the flat form of a quote depends on its leaves only.

  1. **Unwrapping** — a span may be replaced by what is in it, and a container by what is in it and a line
     break, at any place of the tree and at any depth.  That changes no depth-first text
     (`spellAll_of_unwraps`), so it changes no flat form.

  2. **Leaves** — every tree can be unwrapped to a row of texts and line breaks (`unwraps_leaves`).  What is
     to be shown of the depth-first text has to be shown for such rows only.

  3. **Moved lines** — behind each line break of a flat text stand the two spaces that were put there.
     `outdent` takes them away again, and what is left is the trimmed text with each run of line breaks
     reduced to one; spaces of its own behind a line break stay.

  4. The flat form has all of that together (`flatten_form`).
-/
import Mathlib.Data.List.Destutter
import Mathlib.Logic.Relation
import Scenarist.Proofs.Page.FlatText
import Scenarist.Proofs.Text.Letters

namespace Scenarist.RichText

open Relation (ReflTransGen)
open RichNode (spellAll spellAll_append)

variable {nodes more : RichText}

/-! ## Unwrapping -/

/-- One group of a tree, anywhere in it, is replaced by what is in it. -/
inductive Unwraps : RichText → RichText → Prop where
  /-- A span ends no line. -/
  | span (nodes : RichText) : Unwraps [.span nodes] nodes
  /-- A container ends its line. -/
  | container (nodes : RichText) : Unwraps [.container nodes] (nodes ++ [.lineBreak])
  /-- The group may stand in a span. -/
  | inSpan {nodes more : RichText} (h : Unwraps nodes more) : Unwraps [.span nodes] [.span more]
  /-- The group may stand in a container. -/
  | inContainer {nodes more : RichText} (h : Unwraps nodes more) :
      Unwraps [.container nodes] [.container more]
  /-- Other nodes may stand before it and after it. -/
  | beside {nodes more : RichText} (before after : RichText) (h : Unwraps nodes more) :
      Unwraps (before ++ nodes ++ after) (before ++ more ++ after)

theorem spellAll_singleton (node : RichNode) : spellAll [node] = node.spell := by
  rw [spellAll, spellAll, List.append_nil]

/-- Unwrapping changes no depth-first text. -/
theorem spellAll_of_unwraps (h : Unwraps nodes more) : spellAll nodes = spellAll more := by
  induction h with
  | span nodes => rw [spellAll_singleton, RichNode.spell]
  | container nodes =>
    rw [spellAll_singleton, RichNode.spell, spellAll_append, spellAll_singleton, RichNode.spell]
  | inSpan h ih => rw [spellAll_singleton, spellAll_singleton, RichNode.spell, RichNode.spell, ih]
  | inContainer h ih =>
    rw [spellAll_singleton, spellAll_singleton, RichNode.spell, RichNode.spell, ih]
  | beside before after h ih =>
    rw [spellAll_append, spellAll_append, ih, spellAll_append, spellAll_append]

theorem spellAll_of_unwrapsAll (h : ReflTransGen Unwraps nodes more) : spellAll nodes = spellAll more := by
  induction h with
  | refl => rfl
  | tail _ hstep ih => rw [ih, spellAll_of_unwraps hstep]

/-- **Unwrapping changes no flat form**, however many groups are unwrapped. -/
theorem flatten_of_unwrapsAll (h : ReflTransGen Unwraps nodes more) : flatten more = flatten nodes := by
  rw [flatten, flatten, spellAll_of_unwrapsAll h]

/-! ## Leaves -/

mutual

/-- The leaves of a node, depth first, and a line break for each container. -/
def nodeLeaves : RichNode → RichText
  | .text run => [.text run]
  | .span nodes => leaves nodes
  | .container nodes => leaves nodes ++ [.lineBreak]
  | .lineBreak => [.lineBreak]

/-- The leaves of a list of nodes, depth first, and a line break for each container. -/
def leaves : RichText → RichText
  | [] => []
  | node :: nodes => nodeLeaves node ++ leaves nodes

end

/-- A leaf: a text or a line break. -/
def IsLeaf : RichNode → Prop
  | .text _ => True
  | .lineBreak => True
  | _ => False

/-- The text of a leaf that has one. -/
def run? : RichNode → Option Text
  | .text run => some run
  | _ => none

/-- The texts among the leaves, depth first. -/
def runs (nodes : RichText) : List Text := (leaves nodes).filterMap run?

theorem unwrapsAll_beside (before after : RichText) (h : ReflTransGen Unwraps nodes more) :
    ReflTransGen Unwraps (before ++ nodes ++ after) (before ++ more ++ after) :=
  h.lift (fun nodes => before ++ nodes ++ after) fun _ _ hstep => hstep.beside before after

mutual

theorem unwraps_nodeLeaves : ∀ node, ReflTransGen Unwraps [node] (nodeLeaves node)
  | .text run => by rw [nodeLeaves]
  | .span nodes => by
    rw [nodeLeaves]
    exact .head (.span nodes) (unwraps_leaves nodes)
  | .container nodes => by
    rw [nodeLeaves]
    exact .head (.container nodes) (unwrapsAll_beside [] [.lineBreak] (unwraps_leaves nodes))
  | .lineBreak => by rw [nodeLeaves]

/-- **Every tree can be unwrapped** to the row of its leaves. -/
theorem unwraps_leaves : ∀ nodes, ReflTransGen Unwraps nodes (leaves nodes)
  | [] => by rw [leaves]
  | node :: nodes => by
    have hnode := unwrapsAll_beside [] nodes (unwraps_nodeLeaves node)
    have hnodes := unwrapsAll_beside (nodeLeaves node) [] (unwraps_leaves nodes)
    rw [List.append_nil, List.append_nil] at hnodes
    rw [leaves]
    exact hnode.trans hnodes

end

mutual

theorem isLeaf_of_mem_nodeLeaves : ∀ node, ∀ leaf ∈ nodeLeaves node, IsLeaf leaf
  | .text run, leaf, h => by
    rw [nodeLeaves] at h
    obtain rfl := List.mem_singleton.1 h
    trivial
  | .span nodes, leaf, h => by
    rw [nodeLeaves] at h
    exact isLeaf_of_mem_leaves nodes leaf h
  | .container nodes, leaf, h => by
    rw [nodeLeaves] at h
    rcases List.mem_append.1 h with h | h
    · exact isLeaf_of_mem_leaves nodes leaf h
    · obtain rfl := List.mem_singleton.1 h
      trivial
  | .lineBreak, leaf, h => by
    rw [nodeLeaves] at h
    obtain rfl := List.mem_singleton.1 h
    trivial

/-- No group is left among the leaves. -/
theorem isLeaf_of_mem_leaves : ∀ nodes, ∀ leaf ∈ leaves nodes, IsLeaf leaf
  | [], leaf, h => by
    rw [leaves] at h
    cases h
  | node :: nodes, leaf, h => by
    rw [leaves] at h
    rcases List.mem_append.1 h with h | h
    · exact isLeaf_of_mem_nodeLeaves node leaf h
    · exact isLeaf_of_mem_leaves nodes leaf h

end

/-! ## Texts among leaves -/

theorem withoutBlanks_collapseBreaks (t : Text) :
    Text.withoutBlanks (collapseBreaks t) = Text.withoutBlanks t := by
  induction t with
  | nil => rfl
  | cons c t ih =>
    unfold collapseBreaks
    split
    · next h =>
      -- the line break that is left out is a blank
      obtain ⟨rfl, -⟩ : c = '\n' ∧ t.head? = some '\n' := by simpa using h
      rw [ih]
      rfl
    · rw [Text.withoutBlanks, Text.withoutBlanks, List.filter_cons, List.filter_cons]
      rw [Text.withoutBlanks, Text.withoutBlanks] at ih
      rw [ih]

theorem withoutBlanks_indentBreaks (t : Text) :
    Text.withoutBlanks (indentBreaks t) = Text.withoutBlanks t := by
  induction t with
  | nil => rfl
  | cons c t ih =>
    have hfirst : Text.withoutBlanks (if c = '\n' then ['\n', ' ', ' '] else [c])
        = Text.withoutBlanks [c] := by
      split
      · next hc => rw [hc]; rfl
      · rfl
    rw [indentBreaks_cons, Text.withoutBlanks_append, hfirst, ih, ← Text.withoutBlanks_append]
    rfl

/-- A row of leaves shows its texts. -/
theorem withoutBlanks_row (h : ∀ node ∈ nodes, IsLeaf node) :
    Text.withoutBlanks (spellAll nodes) = Text.withoutBlanks (nodes.filterMap run?).flatten := by
  induction nodes with
  | nil => rfl
  | cons node nodes ih =>
    obtain ⟨hnode, hnodes⟩ := List.forall_mem_cons.1 h
    have ih := ih hnodes
    rw [spellAll, Text.withoutBlanks_append, ih]
    cases node with
    | text run =>
      rw [RichNode.spell, List.filterMap_cons_some (f := run?) rfl, List.flatten_cons,
        Text.withoutBlanks_append]
    | lineBreak =>
      rw [List.filterMap_cons_none (f := run?) rfl]
      rfl
    | span nodes => cases hnode
    | container nodes => cases hnode

/-- **The flat form shows the texts among the leaves**, in their order. -/
theorem withoutBlanks_flatten (nodes : RichText) :
    Text.withoutBlanks (flatten nodes) = Text.withoutBlanks (runs nodes).flatten := by
  rw [flatten, withoutBlanks_indentBreaks, withoutBlanks_collapseBreaks, Text.withoutBlanks_trim,
    spellAll_of_unwrapsAll (unwraps_leaves nodes), withoutBlanks_row (isLeaf_of_mem_leaves nodes), runs]

/-! ## Moved lines -/

/-- A text without the two spaces behind each line break. -/
def outdent : Text → Text
  | '\n' :: ' ' :: ' ' :: t => '\n' :: outdent t
  | c :: t => c :: outdent t
  | [] => []

/-- Taking the two spaces away undoes putting them there, whatever spaces come after them. -/
theorem outdent_indentBreaks (t : Text) : outdent (indentBreaks t) = t := by
  induction t with
  | nil => rfl
  | cons c t ih =>
    rw [indentBreaks_cons]
    split
    · next hc =>
      rw [hc]
      show '\n' :: outdent (indentBreaks t) = _
      rw [ih]
    · next hc =>
      rw [List.singleton_append, outdent, ih]
      simp [hc]

/-- Each run of line breaks is reduced to one, and nothing else is left out. -/
theorem collapseBreaks_eq_destutter (t : Text) :
    collapseBreaks t = t.destutter fun c d => c ≠ '\n' ∨ d ≠ '\n' := by
  cases t with
  | nil => rfl
  | cons c t =>
    rw [List.destutter_cons']
    induction t generalizing c with
    | nil => simp [collapseBreaks]
    | cons d t ih =>
      by_cases hbreaks : c = '\n' ∧ d = '\n'
      · obtain ⟨rfl, rfl⟩ := hbreaks
        rw [List.destutter', if_neg (by decide), ← ih]
        rfl
      · have hkept : c ≠ '\n' ∨ d ≠ '\n' := not_and_or.1 hbreaks
        rw [List.destutter', if_pos hkept, ← ih, collapseBreaks, if_neg (by simpa using hbreaks)]

/-! ## The flat form -/

/-- **Flattening a quote.**  It makes no difference whether a group of the tree, at any depth, is replaced
by what is in it, a container with a line break behind.  The flat form has no blanks at its ends, no two
line breaks in a row, and two spaces behind each line break; without these it is the trimmed depth-first
text with each run of line breaks reduced to one.  Its characters that are not blank are those of the texts
among the leaves, in their order. -/
theorem flatten_form (nodes : RichText) :
    (∀ others, ReflTransGen Unwraps nodes others → flatten others = flatten nodes) ∧
    IsFlat (flatten nodes) ∧
    outdent (flatten nodes)
      = (Text.trim (spellAll nodes)).destutter (fun c d => c ≠ '\n' ∨ d ≠ '\n') ∧
    Text.withoutBlanks (flatten nodes) = Text.withoutBlanks (runs nodes).flatten := by
  refine ⟨fun others h => flatten_of_unwrapsAll h, isFlat_flatten nodes, ?_, withoutBlanks_flatten nodes⟩
  rw [flatten, outdent_indentBreaks, collapseBreaks_eq_destutter]

/-- A container in a span, with a line break of its own and one in its text. -/
def nestedQuote : RichText :=
  [.container [.text " a\n\n".toList, .span [.container [.text " b".toList, .lineBreak], .text "c".toList]],
    .lineBreak]

/-- Both groups are unwrapped. -/
theorem flatten_form_nestedQuote :
    let row : RichText := [.text " a\n\n".toList, .text " b".toList, .lineBreak, .lineBreak,
      .text "c".toList, .lineBreak, .lineBreak]
    ReflTransGen Unwraps nestedQuote row ∧ flatten row = flatten nestedQuote ∧
    outdent (flatten nestedQuote) = "a\n b\nc".toList ∧
    Text.withoutBlanks (flatten nestedQuote) = "abc".toList := by
  intro row
  obtain ⟨hunwrap, -, houtdent, hblanks⟩ := flatten_form nestedQuote
  have hrow : ReflTransGen Unwraps nestedQuote row := unwraps_leaves nestedQuote
  exact ⟨hrow, hunwrap row hrow, houtdent.trans (by decide +kernel),
    hblanks.trans (by decide +kernel)⟩

end Scenarist.RichText
