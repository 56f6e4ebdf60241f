/-
  Part reading — the reader of a page gives what the shape of its document says.

  1. `ReadAs` says what events are read to, whatever stands before them and whatever follows.  Every
     kind of block has a rule: what its reader makes of the events inside it is the block.

  2. A part is read to its own blocks and omissions (`readAs_part`).  So the parts of a document are
     read apart (`parts_read_apart`).
-/
import Scenarist.Proofs.Page.ListReading
import Scenarist.Proofs.Page.QuoteReading

namespace Scenarist.Reading

open Markdown (Inline Leaf Group Part Span Tag Event Located EventTree around inlineEvents
  partEvents treeEvents)

variable {file : Nat}

/-- A page with more blocks and omissions. -/
def more (page : Page) (blocks : List Block) (omissions : List Omission) : Page :=
  ⟨page.blocks ++ blocks, page.omissions ++ omissions⟩

theorem more_nil (page : Page) : more page [] [] = page := by
  simp [more]

theorem more_more (page : Page) (blocks blocks' : List Block) (left left' : List Omission) :
    more (more page blocks left) blocks' left' = more page (blocks ++ blocks') (left ++ left') := by
  simp [more]

/-- Whether a page has a reader for what starts with a tag. -/
def hasReader : Tag → Bool
  | .heading _ | .paragraph | .quote | .list none | .table => true
  | _ => false

/-- Events that are read to the given blocks and omissions, whatever has been read before and whatever
follows. -/
def ReadAs (file : Nat) (es : List Located) (blocks : List Block) (left : List Omission) : Prop :=
  ∀ (page : Page) (rest : List Located),
    Page.readEvents file page (es ++ rest) = Page.readEvents file (more page blocks left) rest

namespace ReadAs

variable {es fs : List Located} {added added' : List Block} {left left' : List Omission}

theorem nil : ReadAs file [] [] [] := by
  intro page rest
  rw [List.nil_append, more_nil]

theorem append (hes : ReadAs file es added left) (hfs : ReadAs file fs added' left') :
    ReadAs file (es ++ fs) (added ++ added') (left ++ left') := by
  intro page rest
  rw [List.append_assoc, hes, hfs, more_more]

/-- All events of a page are read to the same. -/
theorem readEvents_eq (hes : ReadAs file es added left) :
    Page.readEvents file ⟨[], []⟩ es = ⟨added, left⟩ := by
  have hread : Page.readEvents file ⟨[], []⟩ (es ++ []) = Page.readEvents file ⟨added, left⟩ [] :=
    hes ⟨[], []⟩ []
  rwa [List.append_nil, Page.readEvents] at hread

/-- A single event outside of everything is passed over. -/
theorem mark {event : Event} (h : event.isMark = true) (span : Span) :
    ReadAs file [(event, span)] [] [] := by
  intro page rest
  rw [more_nil]
  revert h
  cases event <;> simp [Event.isMark, Page.readEvents]

/-- What has no reader is left out up to its own finish. -/
theorem skipped {tag : Tag} (htag : hasReader tag = false) (span : Span) (ts : List EventTree) :
    ReadAs file (around tag span (treeEvents ts)) [] [omission file tag span] := by
  intro page rest
  have hskip := skip_around tag span ts rest
  rw [around_append] at hskip ⊢
  rw [Page.readEvents, hskip, more, List.append_nil]
  all_goals
    intros
    subst_vars
    cases htag

theorem paragraph (span : Span) (nodes : List Inline) :
    ReadAs file (around .paragraph span (inlineEvents nodes))
      [.paragraph (contentText .markup nodes)] [] := by
  intro page rest
  have htext := leafText_content (show inLine (.finish .paragraph) = false from rfl) .markup
    nodes span rest
  rw [around_append, Page.readEvents]
  simp [Tag.finish, htext, more]

theorem heading (span : Span) (level : Nat) (nodes : List Inline) :
    ReadAs file (around (.heading level) span (inlineEvents nodes))
      [.heading level (contentText .label nodes)] [] := by
  intro page rest
  have htext := leafText_content (show inLine (.finish .heading) = false from rfl) .label
    nodes span rest
  rw [around_append, Page.readEvents]
  simp [Tag.finish, htext, more]

theorem quote {nodes : List RichNode} (hes : QuotedAs file es nodes left) (span : Span) :
    ReadAs file (around .quote span es) [.quote nodes] left := by
  intro page rest
  have hquote : quoteNodes file [] [] [] (es ++ (.finish .quote, span) :: rest)
      = ⟨nodes, left, rest⟩ := hes.quoteNodes_eq span rest
  rw [around_append, Page.readEvents]
  simp [Tag.finish, hquote, more]

theorem list (hes : ListedAs file es added left) (span : Span) :
    ReadAs file (around (.list none) span es) added left := by
  intro page rest
  rw [around_append, Page.readEvents]
  simp [Tag.finish, hes.bullets_eq, more]

theorem table {rows : List (List Text)}
    (hes : ∀ before rest, tableRows before [] (es ++ rest) = tableRows (rows ++ before) [] rest)
    (span : Span) : ReadAs file (around .table span es) [.table rows.reverse] [] := by
  intro page rest
  have htable : tableRows [] [] (es ++ (.finish .table, span) :: rest) = (rows.reverse, rest) := by
    rw [hes, tableRows, List.append_nil]
  rw [around_append, Page.readEvents]
  simp [Tag.finish, htable, more]

end ReadAs

/-- Inline content that stands in no part gives no block. -/
theorem readAs_stray : ∀ nodes : List Inline,
    ReadAs file (inlineEvents nodes) [] (nodes.flatMap (strayOmission file))
  | [] => .nil
  | .leaf span leaf :: nodes => by
    rw [inlineEvents, Inline.events, List.flatMap_cons, strayOmission]
    exact .append (.mark (Markdown.isMark_event leaf) span) (readAs_stray nodes)
  | .group span kind parts :: nodes => by
    have htag : hasReader kind.tag = false := by cases kind <;> rfl
    have hleft : omission file kind.tag span = ⟨.other, span, file⟩ := by cases kind <;> rfl
    rw [inlineEvents, Inline.events, List.flatMap_cons, strayOmission, ← hleft,
      ← Markdown.treeEvents_inlineTrees]
    exact .append (.skipped htag span _) (readAs_stray nodes)

/-- A part is read to its own blocks and omissions. -/
theorem readAs_part (p : Markdown.Part (List Inline)) :
    ReadAs file p.events (partBlocks p) (partOmissions file p) := by
  have hskipped : ∀ {tag : Tag} {span : Span} {inner : List EventTree},
      p.trees = [.group tag span inner] → hasReader tag = false →
      ReadAs file p.events [] [omission file tag span] := by
    intro tag span inner htree htag
    rw [← Markdown.treeEvents_trees, htree, Markdown.treeEvents_group]
    exact .skipped htag span inner
  cases p with
  | paragraph span content => exact .paragraph span content
  | plain content => exact readAs_stray content
  | heading span level content => exact .heading span level content
  | rule span => exact .mark rfl span
  | code span pieces => exact hskipped rfl rfl
  | html span pieces => exact hskipped rfl rfl
  | table span head rows =>
    have htable : ReadAs file _ [.table _] [] := .table (tableRows_rows head rows) span
    rw [List.reverse_reverse] at htable
    exact htable
  | quote span parts => exact .quote (quotedAs_parts parts) span
  | list span start items =>
    cases start with
    | none => exact .list (listedAs_items items) span
    | some first => exact hskipped rfl rfl

/-- The parts of a page are read one by one. -/
theorem readAs_parts (ps : List (Markdown.Part (List Inline))) :
    ReadAs file (partEvents ps) (ps.flatMap partBlocks) (ps.flatMap (partOmissions file)) := by
  induction ps with
  | nil => exact .nil
  | cons p ps ih =>
    rw [partEvents, List.flatMap_cons, List.flatMap_cons]
    exact .append (readAs_part p) ih

theorem readEvents_document (file : Nat) (ps : List (Markdown.Part (List Inline))) :
    Page.readEvents file ⟨[], []⟩ (partEvents ps)
      = ⟨ps.flatMap partBlocks, ps.flatMap (partOmissions file)⟩ := (readAs_parts ps).readEvents_eq

/-- **The reader follows the tree.**  The blocks and omissions of a document are those of its parts,
one after the other, each told by the part alone.  The same holds after any blocks read before and
whatever events come next: the end of no part is missed, and none has a say in how another is
read. -/
theorem parts_read_apart (file : Nat) (ps : List (Markdown.Part (List Inline))) :
    Page.readEvents file ⟨[], []⟩ (partEvents ps)
        = ⟨ps.flatMap partBlocks, ps.flatMap (partOmissions file)⟩ ∧
      ∀ (page : Page) (rest : List Located),
        Page.readEvents file page (partEvents ps ++ rest)
          = Page.readEvents file
              ⟨page.blocks ++ ps.flatMap partBlocks,
                page.omissions ++ ps.flatMap (partOmissions file)⟩ rest := by
  constructor
  · exact readEvents_document file ps
  · intro page rest
    exact readAs_parts ps page rest

/-- A page with an image in a quote, code over several lines in an item, a numbered list and HTML over
several lines. -/
def motleyPage : Text :=
  ("See [x](y)\n\n> a ![b](c)\n\n- d\n\n  ```\n  e\n\n  f\n  ```\n\n  - g\n\n"
    ++ "1. h\n\n<div>\ni\n</div>\n").toList

theorem motleyPage_read_apart :
    Page.readEvents 0 ⟨[], []⟩ (partEvents (Markdown.document motleyPage))
      = ⟨[.paragraph "See [x](y)".toList, .quote [.container [.text "a ".toList]],
            .bullet "d".toList, .bullet "g".toList],
          [⟨.other, ⟨16, 23⟩, 0⟩, ⟨.code, ⟨32, 50⟩, 0⟩, ⟨.numberedList, ⟨59, 65⟩, 0⟩,
            ⟨.html, ⟨65, 80⟩, 0⟩]⟩ := by
  obtain ⟨hread, -⟩ := parts_read_apart 0 (Markdown.document motleyPage)
  rw [hread]
  decide +kernel

/-- A source is read to the blocks and omissions of the parts of its document. -/
theorem read_document (file : Nat) (source : Text) :
    Page.read file source
      = ⟨(Markdown.document source).flatMap partBlocks,
          (Markdown.document source).flatMap (partOmissions file)⟩ := by
  rw [Page.read, Markdown.events, readEvents_document]

end Scenarist.Reading
