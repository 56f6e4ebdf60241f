/-
  Event trees — what is common to all that stands between a start and its finish.

  1. An event tree is a mark (an event that neither starts nor ends anything) or a group: a start,
     the events of further trees, and the finish.  `treeEvents` writes trees down, so a sequence of
     events is well nested when it is written from trees.

  2. Every kind of node of a document is an event tree (`treeEvents_partTrees`), a plain part is as
     many as it has nodes.  What holds of all well-nested events is proved here once, and not for
     each kind.

  3. An event stands at a place of the source.  What tells something of places only are the groups
     that start (`groupSpans`) and the letters that are shown (`shownSpans`).
-/
import Scenarist.Markdown.Event

namespace Scenarist.Markdown

/-- Whether an event neither starts nor ends anything. -/
def Event.isMark : Event → Bool
  | .start _ => false
  | .finish _ => false
  | _ => true

theorem Event.isMark_text (t : Text) : (Event.text t).isMark = true := rfl

theorem Event.isMark_html : Event.html.isMark = true := rfl

theorem Event.isMark_rule : Event.rule.isMark = true := rfl

/-- Well-nested events as a tree. -/
inductive EventTree where
  /-- A single event. -/
  | mark (event : Event) (span : Span) (h : event.isMark = true)
  /-- A start and its finish around further trees. -/
  | group (tag : Tag) (span : Span) (inner : List EventTree)

/-- Where a tree stands. -/
def EventTree.span : EventTree → Span
  | .mark _ span _ => span
  | .group _ span _ => span

mutual

/-- The events of a tree. -/
def EventTree.events : EventTree → List Located
  | .mark event span _ => [(event, span)]
  | .group tag span inner => around tag span (treeEvents inner)

/-- The events of trees, one after the other. -/
def treeEvents : List EventTree → List Located
  | [] => []
  | t :: ts => t.events ++ treeEvents ts

end

@[simp] theorem treeEvents_nil : treeEvents [] = [] := by rw [treeEvents]

@[simp] theorem treeEvents_cons (t : EventTree) (ts : List EventTree) :
    treeEvents (t :: ts) = t.events ++ treeEvents ts := by rw [treeEvents]

@[simp] theorem events_mark (event : Event) (span : Span) (h : event.isMark = true) :
    (EventTree.mark event span h).events = [(event, span)] := by rw [EventTree.events]

@[simp] theorem events_group (tag : Tag) (span : Span) (inner : List EventTree) :
    (EventTree.group tag span inner).events = around tag span (treeEvents inner) := by
  rw [EventTree.events]

theorem treeEvents_mark (event : Event) (span : Span) (h : event.isMark = true) :
    treeEvents [.mark event span h] = [(event, span)] := by
  simp

theorem treeEvents_group (tag : Tag) (span : Span) (inner : List EventTree) :
    treeEvents [.group tag span inner] = around tag span (treeEvents inner) := by
  simp

theorem treeEvents_append (ts us : List EventTree) :
    treeEvents (ts ++ us) = treeEvents ts ++ treeEvents us := by
  induction ts with
  | nil => simp
  | cons t ts ih => simp [ih]

theorem treeEvents_map {α : Type} (f : α → EventTree) (xs : List α) :
    treeEvents (xs.map f) = xs.flatMap fun x => (f x).events := by
  induction xs with
  | nil => simp
  | cons x xs ih => simp [ih]

/-! ## Documents as trees -/

theorem isMark_event (leaf : Leaf) : leaf.event.isMark = true := by cases leaf <;> rfl

mutual

/-- A node of inline content as a tree. -/
def Inline.tree : Inline → EventTree
  | .leaf span leaf => .mark leaf.event span (isMark_event leaf)
  | .group span kind parts => .group kind.tag span (inlineTrees parts)

/-- Inline content as trees. -/
def inlineTrees : List Inline → List EventTree
  | [] => []
  | node :: nodes => node.tree :: inlineTrees nodes

end

/-- A piece as a tree. -/
def Raw.tree : Raw → EventTree
  | .text span t => .mark (.text t) span (Event.isMark_text t)
  | .html span => .mark .html span Event.isMark_html

/-- A cell as a tree. -/
def Cell.tree (c : Cell (List Inline)) : EventTree :=
  .group .tableCell c.span (inlineTrees c.content)

/-- A row as a tree. -/
def Row.tree (tag : Tag) (r : Row (List Inline)) : EventTree :=
  .group tag r.span (r.cells.map Cell.tree)

mutual

/-- A part as trees. -/
def Part.trees : Part (List Inline) → List EventTree
  | .paragraph span content => [.group .paragraph span (inlineTrees content)]
  | .plain content => inlineTrees content
  | .heading span level content => [.group (.heading level) span (inlineTrees content)]
  | .rule span => [.mark .rule span Event.isMark_rule]
  | .code span pieces => [.group .code span (pieces.map Raw.tree)]
  | .html span pieces => [.group .html span (pieces.map Raw.tree)]
  | .table span head rows =>
      [.group .table span (head.tree .tableHead :: rows.map (Row.tree .tableRow))]
  | .quote span parts => [.group .quote span (partTrees parts)]
  | .list span start items => [.group (.list start) span (itemTrees items)]

/-- An item as a tree. -/
def Item.tree : Item (List Inline) → EventTree
  | .mk span parts => .group .item span (partTrees parts)

/-- Parts as trees. -/
def partTrees : List (Part (List Inline)) → List EventTree
  | [] => []
  | p :: ps => p.trees ++ partTrees ps

/-- Items as trees. -/
def itemTrees : List (Item (List Inline)) → List EventTree
  | [] => []
  | i :: is => i.tree :: itemTrees is

end

mutual

theorem events_inlineTree : ∀ node : Inline, node.tree.events = node.events
  | .leaf span leaf => by simp [Inline.tree, Inline.events]
  | .group span kind parts => by
    rw [Inline.tree, events_group, treeEvents_inlineTrees parts, Inline.events]

theorem treeEvents_inlineTrees : ∀ nodes, treeEvents (inlineTrees nodes) = inlineEvents nodes
  | [] => by rw [inlineTrees, treeEvents_nil, inlineEvents]
  | node :: nodes => by
    rw [inlineTrees, treeEvents_cons, events_inlineTree node, treeEvents_inlineTrees nodes,
      inlineEvents]

end

theorem events_rawTree (r : Raw) : r.tree.events = [r.event] := by
  cases r <;> rw [Raw.tree, events_mark, Raw.event]

theorem treeEvents_rawTrees (pieces : List Raw) :
    treeEvents (pieces.map Raw.tree) = pieces.map Raw.event := by
  rw [treeEvents_map, List.map_eq_flatMap]
  simp only [events_rawTree]

theorem events_cellTree (c : Cell (List Inline)) : c.tree.events = c.events := by
  rw [Cell.tree, events_group, treeEvents_inlineTrees, Cell.events]

theorem events_rowTree (tag : Tag) (r : Row (List Inline)) :
    (r.tree tag).events = r.events tag := by
  rw [Row.tree, events_group, treeEvents_map, Row.events]
  simp only [events_cellTree]

mutual

theorem treeEvents_trees : ∀ p : Part (List Inline), treeEvents p.trees = p.events
  | .paragraph span content => by simp [Part.trees, Part.events, treeEvents_inlineTrees]
  | .plain content => by rw [Part.trees, Part.events, treeEvents_inlineTrees]
  | .heading span level content => by simp [Part.trees, Part.events, treeEvents_inlineTrees]
  | .rule span => by rw [Part.trees, treeEvents_mark, Part.events]
  | .code span pieces => by
    rw [Part.trees, treeEvents_group, treeEvents_rawTrees, Part.events]
  | .html span pieces => by
    rw [Part.trees, treeEvents_group, treeEvents_rawTrees, Part.events]
  | .table span head rows => by
    simp [Part.trees, Part.events, treeEvents_map, events_rowTree]
  | .quote span parts => by simp [Part.trees, Part.events, treeEvents_partTrees parts]
  | .list span start items => by simp [Part.trees, Part.events, treeEvents_itemTrees items]

theorem events_itemTree : ∀ i : Item (List Inline), i.tree.events = i.events
  | .mk span parts => by rw [Item.tree, events_group, treeEvents_partTrees parts, Item.events]

/-- The events of a document are well nested. -/
theorem treeEvents_partTrees : ∀ ps, treeEvents (partTrees ps) = partEvents ps
  | [] => by rw [partTrees, treeEvents_nil, partEvents]
  | p :: ps => by
    rw [partTrees, treeEvents_append, treeEvents_trees p, treeEvents_partTrees ps, partEvents]

theorem treeEvents_itemTrees : ∀ is, treeEvents (itemTrees is) = itemEvents is
  | [] => by rw [itemTrees, treeEvents_nil, itemEvents]
  | i :: is => by
    rw [itemTrees, treeEvents_cons, events_itemTree i, treeEvents_itemTrees is, itemEvents]

end

/-! ## Places -/

/-- The characters that an event shows. -/
def Event.chars : Event → Text
  | .text t => t
  | .code t => t
  | _ => []

/-- Whether a stretch lies inside another. -/
def Span.Inside (s outer : Span) : Prop := outer.first ≤ s.first ∧ s.stop ≤ outer.stop

instance (s outer : Span) : Decidable (s.Inside outer) :=
  inferInstanceAs (Decidable (outer.first ≤ s.first ∧ s.stop ≤ outer.stop))

/-- Where letters are shown. -/
def shownSpans (es : List Located) : List Span :=
  (es.filter fun e => !e.1.chars.all Text.isBlank).map Prod.snd

/-- Where groups start. -/
def groupSpans (es : List Located) : List Span :=
  es.filterMap fun e => match e.1 with
    | .start _ => some e.2
    | _ => none

variable {es fs : List Located} {s : Span}

theorem mem_shownSpans : s ∈ shownSpans es ↔ ∃ e, (e, s) ∈ es ∧ ¬ e.chars.all Text.isBlank := by
  simp [shownSpans]

theorem shownSpans_append (es fs : List Located) :
    shownSpans (es ++ fs) = shownSpans es ++ shownSpans fs := by
  simp [shownSpans]

theorem shownSpans_around (tag : Tag) (span : Span) (inner : List Located) :
    shownSpans (around tag span inner) = shownSpans inner := by
  simp [shownSpans, around, Event.chars]

theorem mem_groupSpans : s ∈ groupSpans es ↔ ∃ tag, (.start tag, s) ∈ es := by
  constructor
  · intro hs
    obtain ⟨⟨e, span⟩, he, hspan⟩ := List.mem_filterMap.1 hs
    cases e with
    | start tag =>
      cases hspan
      exact ⟨tag, he⟩
    | _ => cases hspan
  · rintro ⟨tag, he⟩
    exact List.mem_filterMap.2 ⟨_, he, rfl⟩

theorem groupSpans_append (es fs : List Located) :
    groupSpans (es ++ fs) = groupSpans es ++ groupSpans fs := List.filterMap_append

theorem groupSpans_around (tag : Tag) (span : Span) (inner : List Located) :
    groupSpans (around tag span inner) = span :: groupSpans inner := by
  simp [groupSpans, around]

end Scenarist.Markdown
