/-
  Line reading — the readers of lines of text and of tables stop just where their part ends.

  1. The readers look at one event after the other and never at the tree.  What they give is told
     for the events of a tree and any events that follow.

  2. **Passing over.**  `skip` counts starts and finishes, and in well-nested events they are even
     (`skip_trees`).

  3. **Lines.**  A line takes the events that belong to it (`inLine`) and leaves the first that does
     not (`inlineText_stop`).  A table is read cell by cell.
-/
import Scenarist.Proofs.Markdown.EventTree
import Scenarist.Proofs.Page.Parts

namespace Scenarist.Reading

open Markdown (Inline Group Cell Row Span Tag TagEnd Event Located EventTree around inlineEvents
  treeEvents)

/-! ## Passing over -/

mutual

/-- A tree leaves as much open as it finds. -/
theorem skip_tree : ∀ (t : EventTree) (depth : Nat) (rest : List Located),
    skip (depth + 1) (t.events ++ rest) = skip (depth + 1) rest
  | .mark event span h, depth, rest => by
    have hdepth : depthAfter (depth + 1) event = depth + 1 := by
      cases event <;> first | rfl | cases h
    rw [Markdown.events_mark, List.singleton_append, skip, hdepth, if_neg (Nat.succ_ne_zero depth)]
  | .group tag span inner, depth, rest => by
    have hevents : (EventTree.group tag span inner).events ++ rest
        = (.start tag, span) :: (treeEvents inner ++ (.finish tag.finish, span) :: rest) := by
      simp [around]
    rw [hevents]
    show skip (depth + 1 + 1) (treeEvents inner ++ _) = _
    rw [skip_trees inner (depth + 1)]
    rfl

/-- Well-nested events leave as much open as they find. -/
theorem skip_trees : ∀ (ts : List EventTree) (depth : Nat) (rest : List Located),
    skip (depth + 1) (treeEvents ts ++ rest) = skip (depth + 1) rest
  | [], depth, rest => by rw [Markdown.treeEvents_nil, List.nil_append]
  | t :: ts, depth, rest => by
    rw [Markdown.treeEvents_cons, List.append_assoc, skip_tree t, skip_trees ts]

end

theorem around_append (tag : Tag) (span : Span) (inner rest : List Located) :
    around tag span inner ++ rest
      = (.start tag, span) :: (inner ++ (.finish tag.finish, span) :: rest) := by
  simp [around]

/-- What is passed over ends with its own finish. -/
theorem skip_around (tag : Tag) (span : Span) (ts : List EventTree) (rest : List Located) :
    skip 0 (around tag span (treeEvents ts) ++ rest) = rest := by
  rw [around_append]
  show skip 1 (treeEvents ts ++ _) = rest
  rw [skip_trees ts 0]
  rfl

/-! ## Lines of text -/

/-- A link written around its text, in either style. -/
theorem written_groupPieces (style : LinkStyle) (inner : List Sentence.Piece) (kind : Group) :
    written style (groupPieces inner kind) = groupText style (written style inner) kind := by
  cases kind with
  | link address => rw [groupText_link, linkText_written]
  | _ => rfl

mutual

theorem written_nodePieces (style : LinkStyle) :
    ∀ node, written style (nodePieces node) = nodeText style node
  | .leaf span leaf => by rw [nodePieces, written_plain, nodeText]
  | .group span kind parts => by
    rw [nodePieces, written_groupPieces, written_pieces style parts, nodeText]

/-- The pieces of inline content spell its text. -/
theorem written_pieces (style : LinkStyle) :
    ∀ nodes, written style (pieces nodes) = contentText style nodes
  | [] => by cases style <;> rw [pieces, contentText] <;> rfl
  | node :: nodes => by
    rw [pieces, written_append, written_nodePieces style node, written_pieces style nodes,
      contentText]

end

/-- Inline content adds its text, and the reader goes on after it. -/
theorem inlineText_content (style : LinkStyle) (links : List OpenLink) (text : Text)
    (nodes : List Inline) (rest : List Located) :
    inlineText style links text (inlineEvents nodes ++ rest)
      = inlineText style links (text ++ contentText style nodes) rest := by
  rw [inlineText_nodes, written_pieces]

/-- Whether an event belongs to a line of text in which no link is open. -/
def inLine : Event → Bool
  | .text _ | .code _ | .softBreak | .hardBreak | .inlineHtml => true
  | .start tag => tag.isInline
  | .finish .emphasis | .finish .strong | .finish .strikethrough | .finish .image => true
  | _ => false

/-- The reader of a line stops where the line ends. -/
theorem inlineText_stop {e : Event} (h : inLine e = false) (style : LinkStyle) (text : Text)
    (span : Span) (rest : List Located) :
    inlineText style [] text ((e, span) :: rest) = (text, (e, span) :: rest) := by
  cases e with
  | start tag => cases tag <;> first | rfl | cases h
  | finish tag => cases tag <;> first | rfl | cases h
  | _ => first | rfl | cases h

/-- A line of text is read up to its own end. -/
theorem leafText_content {tag : TagEnd} (h : inLine (.finish tag) = false) (style : LinkStyle)
    (nodes : List Inline) (span : Span) (rest : List Located) :
    leafText style tag (inlineEvents nodes ++ (.finish tag, span) :: rest)
      = (contentText style nodes, rest) := by
  rw [leafText, inlineText_content, inlineText_stop h, List.nil_append]
  show (_, skipPast tag ((.finish tag, span) :: rest)) = _
  rw [skipPast, if_pos rfl]

/-! ## Tables -/

variable {rows : List (List Text)} {row : List Text} {es : List Located}

/-- A single event of a table is passed over. -/
theorem tableRows_mark {event : Event} (h : event.isMark = true) (span : Span)
    (rest : List Located) :
    tableRows rows row ((event, span) :: rest) = tableRows rows row rest := by
  revert h
  cases event <;> simp [Event.isMark, tableRows]

theorem tableRows_cell (span : Span) (nodes : List Inline) (rest : List Located) :
    tableRows rows row (around .tableCell span (inlineEvents nodes) ++ rest)
      = tableRows rows (Text.trim (contentText .label nodes) :: row) rest := by
  rw [around_append, tableRows]
  simp only [Tag.finish, leafText_content (show inLine (.finish .tableCell) = false from rfl)]

theorem tableRows_cells (rows : List (List Text)) (cells : List (Cell (List Inline))) :
    ∀ (row : List Text) (rest : List Located),
      tableRows rows row (cells.flatMap Cell.events ++ rest)
        = tableRows rows ((cells.map cellText).reverse ++ row) rest := by
  induction cells with
  | nil =>
    intro row rest
    rfl
  | cons c cells ih =>
    intro row rest
    rw [List.flatMap_cons, List.append_assoc, Cell.events, tableRows_cell, ih]
    simp [cellText]

/-- A row of a table, or its header, becomes the next row. -/
theorem tableRows_around {tag : Tag} (htag : tag = .tableHead ∨ tag = .tableRow) {cells : List Text}
    (hes : ∀ rows row rest, tableRows rows row (es ++ rest) = tableRows rows (cells ++ row) rest)
    (span : Span) (rest : List Located) :
    tableRows rows [] (around tag span es ++ rest) = tableRows (cells.reverse :: rows) [] rest := by
  have hstart : ∀ es, tableRows rows [] ((.start tag, span) :: es) = tableRows rows [] es := by
    intro es
    rcases htag with rfl | rfl <;> simp [tableRows]
  have hfinish : ∀ row es, tableRows rows row ((.finish tag.finish, span) :: es)
      = tableRows (row.reverse :: rows) [] es := by
    intro row es
    rcases htag with rfl | rfl <;> simp [tableRows, Tag.finish]
  rw [around_append, hstart, hes, hfinish, List.append_nil]

theorem tableRows_row {tag : Tag} (htag : tag = .tableHead ∨ tag = .tableRow)
    (r : Row (List Inline)) (rest : List Located) :
    tableRows rows [] (r.events tag ++ rest) = tableRows (rowTexts r :: rows) [] rest := by
  rw [Row.events, tableRows_around htag (fun rows => tableRows_cells rows r.cells), rowTexts,
    List.reverse_reverse]

theorem tableRows_body (body : List (Row (List Inline))) :
    ∀ (rows : List (List Text)) (rest : List Located),
      tableRows rows [] (body.flatMap (Row.events .tableRow) ++ rest)
        = tableRows ((body.map rowTexts).reverse ++ rows) [] rest := by
  induction body with
  | nil =>
    intro rows rest
    rfl
  | cons r body ih =>
    intro rows rest
    rw [List.flatMap_cons, List.append_assoc, tableRows_row (.inr rfl), ih]
    simp

/-- The rows of a table come after those there are, the header first. -/
theorem tableRows_rows (head : Row (List Inline)) (body : List (Row (List Inline)))
    (rows : List (List Text)) (rest : List Located) :
    tableRows rows [] (head.events .tableHead ++ body.flatMap (Row.events .tableRow) ++ rest)
      = tableRows ((rowTexts head :: body.map rowTexts).reverse ++ rows) [] rest := by
  rw [List.append_assoc, tableRows_row (.inl rfl), tableRows_body]
  simp

end Scenarist.Reading
