/-
  Parts — what a document is read to, told by the shape of its tree.

  1. **Text.**  `contentText` writes inline content from its leaves up.  It takes the way links are
     written as a parameter, as the reader does; a link is written with its markup where that ends
     where it should.

  2. **Quotes.**  Every group of a quote becomes a node around its own parts (`quotedParts`).  Lists
     leave no trace, and what cannot be quoted is left out (`quotedOmissions`).

  3. **Lists.**  An item is one bullet, and the bullets of the lists inside it come after
     (`itemBullets`).  Its text is joined from its runs.  All that is neither text nor a bulleted
     list is left out (`listedOmissions`).

  4. **Pages.**  `partBlocks` and `partOmissions` say it for a part that stands in no other.
-/
import Scenarist.Proofs.Page.LinkMarkup

namespace Scenarist.Reading

open Markdown (Inline Leaf Group Cell Row Part Item)

/-! ## Lines of text -/

/-- The text of a group around the given text. -/
def groupText (style : LinkStyle) (inner : Text) : Group → Text
  | .link address =>
      if style = .markup ∧ Sentence.Whole inner address then
        "[".toList ++ inner ++ "](".toList ++ address ++ ")".toList
      else inner
  | _ => inner

theorem groupText_label (inner : Text) (kind : Group) : groupText .label inner kind = inner := by
  cases kind <;> rfl

theorem groupText_link (style : LinkStyle) (inner address : Text) :
    groupText style inner (.link address) = linkText style inner address := by
  cases style with
  | label => rfl
  | markup =>
    rw [groupText, linkText]
    by_cases hwhole : Sentence.Whole inner address
    · simp [hwhole, unwrapsCleanly_iff.2 hwhole]
    · have hclean : unwrapsCleanly inner address ≠ true := mt unwrapsCleanly_iff.1 hwhole
      simp [hwhole, hclean]

mutual

/-- The text of a node of inline content. -/
def nodeText (style : LinkStyle) : Inline → Text
  | .leaf _ leaf => leafChars leaf
  | .group _ kind parts => groupText style (contentText style parts) kind

/-- The text of inline content. -/
def contentText (style : LinkStyle) : List Inline → Text
  | [] => []
  | node :: nodes => nodeText style node ++ contentText style nodes

end

/-- What is reported of a part that is left out as a whole. -/
def leftOut (file : Nat) : Markdown.Part (List Inline) → List Omission
  | .code span _ => [⟨.code, span, file⟩]
  | .html span _ => [⟨.html, span, file⟩]
  | .list span (some _) _ => [⟨.numberedList, span, file⟩]
  | .paragraph span _ | .heading span _ _ | .table span _ _ | .quote span _ | .list span none _ =>
      [⟨.other, span, file⟩]
  | .plain _ | .rule _ => []

/-! ## Quotes -/

/-- The node of a group of inline content around the given nodes; an image has none. -/
def quotedGroup (inner : List RichNode) : Group → List RichNode
  | .image _ => []
  | _ => [.span inner]

mutual

/-- The nodes of a node of inline content in a quote. -/
def quotedInline : Inline → List RichNode
  | .leaf _ (.text t) => [.text t]
  | .leaf _ (.code t) => [.text t]
  | .leaf _ .softBreak => [.lineBreak]
  | .leaf _ .hardBreak => [.lineBreak]
  | .leaf _ .html => []
  | .group _ kind parts => quotedGroup (quotedContent parts) kind

/-- The nodes of inline content in a quote. -/
def quotedContent : List Inline → List RichNode
  | [] => []
  | node :: nodes => quotedInline node ++ quotedContent nodes

end

mutual

/-- The nodes of a part of a quote. -/
def quotedPart : Markdown.Part (List Inline) → List RichNode
  | .paragraph _ content => [.container (quotedContent content)]
  | .plain content => quotedContent content
  | .heading _ _ content => [.container (quotedContent content)]
  | .quote _ parts => [.container (quotedParts parts)]
  | .list _ _ items => quotedItems items
  | _ => []

/-- The node of an item in a quote. -/
def quotedItem : Item (List Inline) → RichNode
  | .mk _ parts => .container (quotedParts parts)

/-- The nodes of the parts of a quote. -/
def quotedParts : List (Markdown.Part (List Inline)) → List RichNode
  | [] => []
  | p :: ps => quotedPart p ++ quotedParts ps

/-- The nodes of items in a quote. -/
def quotedItems : List (Item (List Inline)) → List RichNode
  | [] => []
  | i :: is => quotedItem i :: quotedItems is

end

/-- What a quote leaves out of a group of inline content, if the given omissions are inside it. -/
def imagesOfGroup (file : Nat) (span : Markdown.Span) (inner : List Omission) :
    Group → List Omission
  | .image _ => [⟨.other, span, file⟩]
  | _ => inner

mutual

/-- What a quote leaves out of a node of inline content. -/
def imagesOfNode (file : Nat) : Inline → List Omission
  | .leaf _ _ => []
  | .group span kind parts => imagesOfGroup file span (imagesOfContent file parts) kind

/-- What a quote leaves out of inline content. -/
def imagesOfContent (file : Nat) : List Inline → List Omission
  | [] => []
  | node :: nodes => imagesOfNode file node ++ imagesOfContent file nodes

end

mutual

/-- What is left out of a part of a quote. -/
def quotedOmission (file : Nat) : Markdown.Part (List Inline) → List Omission
  | .paragraph _ content => imagesOfContent file content
  | .plain content => imagesOfContent file content
  | .heading _ _ content => imagesOfContent file content
  | .quote _ parts => quotedOmissions file parts
  | .list _ _ items => quotedItemOmissions file items
  | p => leftOut file p

/-- What is left out of the parts of a quote. -/
def quotedOmissions (file : Nat) : List (Markdown.Part (List Inline)) → List Omission
  | [] => []
  | p :: ps => quotedOmission file p ++ quotedOmissions file ps

/-- What is left out of an item in a quote. -/
def quotedItemOmission (file : Nat) : Item (List Inline) → List Omission
  | .mk _ parts => quotedOmissions file parts

/-- What is left out of items in a quote. -/
def quotedItemOmissions (file : Nat) : List (Item (List Inline)) → List Omission
  | [] => []
  | i :: is => quotedItemOmission file i ++ quotedItemOmissions file is

end

/-! ## Lists -/

/-- The runs of text of an item, the first of which has begun with the given text.  Plain content
goes on with a run, a paragraph is a run for itself, and everything else ends one. -/
def runs (run : Text) : List (Markdown.Part (List Inline)) → List Text
  | [] => [run]
  | .plain content :: ps => runs (run ++ contentText .label content) ps
  | .paragraph _ content :: ps => run :: contentText .label content :: runs [] ps
  | _ :: ps => run :: runs [] ps

/-- Texts trimmed and joined by single spaces, the blank ones left out. -/
def joined (texts : List Text) : Text :=
  List.intercalate [' '] ((texts.map Text.trim).filter fun run => !run.isEmpty)

/-- The text of an item. -/
def itemText (parts : List (Markdown.Part (List Inline))) : Text := joined (runs [] parts)

mutual

/-- The bullets of a part of an item. -/
def nestedBullets : Markdown.Part (List Inline) → List Block
  | .list _ none items => itemsBullets items
  | _ => []

/-- The bullets of the parts of an item. -/
def partsBullets : List (Markdown.Part (List Inline)) → List Block
  | [] => []
  | p :: ps => nestedBullets p ++ partsBullets ps

/-- The bullets of an item: its own, and those of the lists inside it. -/
def itemBullets : Item (List Inline) → List Block
  | .mk _ parts => .bullet (itemText parts) :: partsBullets parts

/-- The bullets of the items of a list. -/
def itemsBullets : List (Item (List Inline)) → List Block
  | [] => []
  | i :: is => itemBullets i ++ itemsBullets is

end

mutual

/-- What is left out of a part of an item. -/
def listedOmission (file : Nat) : Markdown.Part (List Inline) → List Omission
  | .paragraph _ _ => []
  | .list _ none items => listedItemOmissions file items
  | p => leftOut file p

/-- What is left out of the parts of an item. -/
def listedOmissions (file : Nat) : List (Markdown.Part (List Inline)) → List Omission
  | [] => []
  | p :: ps => listedOmission file p ++ listedOmissions file ps

/-- What is left out of an item. -/
def listedItemOmission (file : Nat) : Item (List Inline) → List Omission
  | .mk _ parts => listedOmissions file parts

/-- What is left out of the items of a list. -/
def listedItemOmissions (file : Nat) : List (Item (List Inline)) → List Omission
  | [] => []
  | i :: is => listedItemOmission file i ++ listedItemOmissions file is

end

/-! ## Pages -/

/-- The text of a cell. -/
def cellText (c : Cell (List Inline)) : Text := Text.trim (contentText .label c.content)

/-- The texts of the cells of a row. -/
def rowTexts (r : Row (List Inline)) : List Text := r.cells.map cellText

/-- The blocks of a part of a page. -/
def partBlocks : Markdown.Part (List Inline) → List Block
  | .paragraph _ content => [.paragraph (contentText .markup content)]
  | .heading _ level content => [.heading level (contentText .label content)]
  | .table _ head rows => [.table (rowTexts head :: rows.map rowTexts)]
  | .quote _ parts => [.quote (quotedParts parts)]
  | .list _ none items => itemsBullets items
  | _ => []

/-- What is left out of inline content that stands in no part, for one of its nodes. -/
def strayOmission (file : Nat) : Inline → List Omission
  | .leaf _ _ => []
  | .group span _ _ => [⟨.other, span, file⟩]

/-- What is left out of a part of a page. -/
def partOmissions (file : Nat) : Markdown.Part (List Inline) → List Omission
  | .paragraph _ _ => []
  | .heading _ _ _ => []
  | .table _ _ _ => []
  | .quote _ parts => quotedOmissions file parts
  | .list _ none items => listedItemOmissions file items
  | .plain content => content.flatMap (strayOmission file)
  | p => leftOut file p

end Scenarist.Reading
