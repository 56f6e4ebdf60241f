/-
  Quote reading — the nodes of a quote mirror its parts.

  1. `QuotedAs` says what events add to a quote.  It leaves free what is open, what is there already
     and what follows, so it is kept when events are put together (`append`) and when a group is put
     around them (`group`).

  2. The parts of a quote are quoted by induction on the tree, with one lemma for each type of node
     (`quotedAs_parts`).
-/
import Scenarist.Proofs.Page.LineReading

namespace Scenarist.Reading

open Markdown (Inline Leaf Part Item Span Tag TagEnd Event Located EventTree around inlineEvents
  partEvents itemEvents treeEvents)

variable {file : Nat}

/-- Events that add the given nodes to a quote, and the given omissions, whatever is open there and
whatever follows.  A list is never among what is open. -/
def QuotedAs (file : Nat) (es : List Located) (added : List RichNode) (left : List Omission) :
    Prop :=
  ∀ (stack : List OpenGroup) (nodes : List RichNode) (omissions : List Omission)
    (rest : List Located), (∀ g ∈ stack, g.ends ≠ .list) →
    quoteNodes file stack nodes omissions (es ++ rest)
      = quoteNodes file stack (nodes ++ added) (omissions ++ left) rest

/-- The nodes of an event that neither starts nor ends anything. -/
def quotedMark : Event → List RichNode
  | .text t | .code t => [.text t]
  | .softBreak | .hardBreak => [.lineBreak]
  | _ => []

namespace QuotedAs

variable {es fs : List Located} {added added' : List RichNode} {left left' : List Omission}
  {tag : Tag} {span : Span}

theorem nil : QuotedAs file [] [] [] := by
  intro stack nodes omissions rest _
  rw [List.nil_append, List.append_nil, List.append_nil]

theorem append (hes : QuotedAs file es added left) (hfs : QuotedAs file fs added' left') :
    QuotedAs file (es ++ fs) (added ++ added') (left ++ left') := by
  intro stack nodes omissions rest hstack
  rw [List.append_assoc, hes _ _ _ _ hstack, hfs _ _ _ _ hstack, List.append_assoc,
    List.append_assoc]

/-- A single event is kept if it shows something or breaks the line. -/
theorem mark {event : Event} (h : event.isMark = true) (span : Span) :
    QuotedAs file [(event, span)] (quotedMark event) [] := by
  intro stack nodes omissions rest _
  rw [List.append_nil]
  revert h
  cases event <;> simp [Event.isMark, quotedMark, quoteNodes]

theorem leaf (leaf : Leaf) (span : Span) :
    QuotedAs file [(leaf.event, span)] (quotedInline (.leaf span leaf)) [] := by
  have hmark : quotedMark leaf.event = quotedInline (.leaf span leaf) := by cases leaf <;> rfl
  exact hmark ▸ mark (Markdown.isMark_event leaf) span

/-- A group that is kept becomes one node around its own. -/
theorem group (htag : isGroup tag = true) (hes : QuotedAs file es added left) :
    QuotedAs file (around tag span es) [endNode tag.finish added] left := by
  intro stack nodes omissions rest hstack
  have hstart : ∀ rest, quoteNodes file stack nodes omissions ((.start tag, span) :: rest)
      = quoteNodes file (⟨tag.finish, nodes⟩ :: stack) [] omissions rest := by
    intro rest
    revert htag
    cases tag <;> simp [quoteNodes, isGroup]
  have hends : tag.finish ≠ .list := by
    revert htag
    cases tag <;> simp [isGroup, Tag.finish]
  have hopen : ∀ g ∈ (⟨tag.finish, nodes⟩ :: stack : List OpenGroup), g.ends ≠ .list :=
    List.forall_mem_cons.2 ⟨hends, hstack⟩
  rw [around_append, hstart, hes _ _ _ _ hopen, List.nil_append, quoteNodes, if_pos rfl]

/-- A list is only looked into. -/
theorem list {start : Option Nat} (hes : QuotedAs file es added left) :
    QuotedAs file (around (.list start) span es) added left := by
  intro stack nodes omissions rest hstack
  have hfinish : ∀ nodes omissions,
      quoteNodes file stack nodes omissions ((.finish .list, span) :: rest)
        = quoteNodes file stack nodes omissions rest := by
    intro nodes omissions
    cases stack with
    | nil => simp [quoteNodes]
    | cons g below =>
      have hg : TagEnd.list ≠ g.ends := fun h => hstack g List.mem_cons_self h.symm
      rw [quoteNodes, if_neg hg]
  rw [around_append, quoteNodes, hes _ _ _ _ hstack]
  exact hfinish _ _

/-- What cannot be quoted is left out up to its own finish. -/
theorem skipped (htag : isGroup tag = false) (hlist : ∀ start, tag ≠ .list start)
    (ts : List EventTree) :
    QuotedAs file (around tag span (treeEvents ts)) [] [omission file tag span] := by
  intro stack nodes omissions rest _
  have hskip := skip_around tag span ts rest
  rw [around_append] at hskip ⊢
  rw [quoteNodes, htag, if_neg Bool.false_ne_true, hskip, List.append_nil]
  exact hlist

/-- A quote is read up to its own end. -/
theorem quoteNodes_eq (hes : QuotedAs file es added left) (span : Span) (rest : List Located) :
    quoteNodes file [] [] [] (es ++ (.finish .quote, span) :: rest) = ⟨added, left, rest⟩ := by
  rw [hes [] [] [] _ (by rintro _ ⟨⟩), quoteNodes, if_pos rfl, List.nil_append, List.nil_append]

end QuotedAs

mutual

theorem quotedAs_node : ∀ node : Inline,
    QuotedAs file node.events (quotedInline node) (imagesOfNode file node)
  | .leaf span leaf => by
    rw [Inline.events, imagesOfNode]
    exact .leaf leaf span
  | .group span kind parts => by
    have hparts : QuotedAs file (inlineEvents parts) (quotedContent parts)
        (imagesOfContent file parts) := quotedAs_content parts
    rw [Inline.events, quotedInline, imagesOfNode]
    cases kind with
    | image address =>
      rw [← Markdown.treeEvents_inlineTrees]
      exact .skipped rfl (by rintro _ ⟨⟩) _
    | _ => exact .group rfl hparts

theorem quotedAs_content : ∀ nodes,
    QuotedAs file (inlineEvents nodes) (quotedContent nodes) (imagesOfContent file nodes)
  | [] => by
    rw [inlineEvents, quotedContent, imagesOfContent]
    exact .nil
  | node :: nodes => by
    rw [inlineEvents, quotedContent, imagesOfContent]
    exact .append (quotedAs_node node) (quotedAs_content nodes)

end

mutual

theorem quotedAs_part : ∀ p : Markdown.Part (List Inline),
    QuotedAs file p.events (quotedPart p) (quotedOmission file p)
  | .paragraph span content => by
    rw [Part.events, quotedPart, quotedOmission]
    exact .group rfl (quotedAs_content content)
  | .plain content => by
    rw [Part.events, quotedPart, quotedOmission]
    exact quotedAs_content content
  | .heading span level content => by
    rw [Part.events, quotedPart, quotedOmission]
    exact .group rfl (quotedAs_content content)
  | .quote span parts => by
    rw [Part.events, quotedPart, quotedOmission]
    exact .group rfl (quotedAs_parts parts)
  | .list span start items => by
    rw [Part.events, quotedPart, quotedOmission]
    exact .list (quotedAs_items items)
  | .rule span => by
    rw [Part.events]
    exact .mark rfl span
  | .code span pieces => by
    rw [← Markdown.treeEvents_trees, Part.trees, Markdown.treeEvents_group]
    exact .skipped rfl (by rintro _ ⟨⟩) _
  | .html span pieces => by
    rw [← Markdown.treeEvents_trees, Part.trees, Markdown.treeEvents_group]
    exact .skipped rfl (by rintro _ ⟨⟩) _
  | .table span head rows => by
    rw [← Markdown.treeEvents_trees, Part.trees, Markdown.treeEvents_group]
    exact .skipped rfl (by rintro _ ⟨⟩) _

theorem quotedAs_item : ∀ i : Item (List Inline),
    QuotedAs file i.events [quotedItem i] (quotedItemOmission file i)
  | .mk span parts => by
    rw [Item.events, quotedItem, quotedItemOmission]
    exact .group rfl (quotedAs_parts parts)

theorem quotedAs_parts : ∀ ps,
    QuotedAs file (partEvents ps) (quotedParts ps) (quotedOmissions file ps)
  | [] => by
    rw [partEvents, quotedParts, quotedOmissions]
    exact .nil
  | p :: ps => by
    rw [partEvents, quotedParts, quotedOmissions]
    exact .append (quotedAs_part p) (quotedAs_parts ps)

theorem quotedAs_items : ∀ is,
    QuotedAs file (itemEvents is) (quotedItems is) (quotedItemOmissions file is)
  | [] => by
    rw [itemEvents, quotedItems, quotedItemOmissions]
    exact .nil
  | i :: is => by
    rw [itemEvents, quotedItems, quotedItemOmissions]
    exact .append (quotedAs_item i) (quotedAs_items is)

end

/-- A quote is read to its nodes, up to its own end. -/
theorem quoteNodes_quote (parts : List (Markdown.Part (List Inline))) (span : Span)
    (rest : List Located) :
    quoteNodes file [] [] [] (partEvents parts ++ (.finish .quote, span) :: rest)
      = ⟨quotedParts parts, quotedOmissions file parts, rest⟩ :=
  (quotedAs_parts parts).quoteNodes_eq span rest

end Scenarist.Reading
