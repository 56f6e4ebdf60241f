/-
  Quoted lines — a line of text in a quote, beside the same line anywhere else.

  1. **Two readers** — headings, bullets and cells take a line of text event by event, whatever groups
     stand in it.  A quote makes a node of each group, and has a case for each kind of group but one:
     an image is left out with all that is inside it.

  2. **Flattening** — trimming, dropping line breaks next to others and moving lines right change blanks
     only, so a flat text has the words of the nodes (`words_flatten`).

  3. **What both read** — without its images, a line has the same words in a quote as elsewhere
     (`sameWords_content`).  So the two readers agree, and nothing is left out, on just those lines that
     have no image (`quote_reads_line_iff`).
-/
import Scenarist.Proofs.Page.FlatText
import Scenarist.Proofs.Page.QuoteReading
import Scenarist.Proofs.Text.SameWords

namespace Scenarist.Reading

open Markdown (Inline Leaf Group Part Span Located inlineEvents partEvents)
open Text (SameWords)

/-! ## Images -/

mutual

/-- Whether a node is an image, or has one in it. -/
def nodeHasImage : Inline → Bool
  | .leaf _ _ => false
  | .group _ (.image _) _ => true
  | .group _ _ parts => hasImage parts

/-- Whether inline content has an image. -/
def hasImage : List Inline → Bool
  | [] => false
  | node :: nodes => nodeHasImage node || hasImage nodes

end

mutual

/-- A node without the images in it; nothing if it is one. -/
def nodeWithoutImages : Inline → List Inline
  | .leaf span leaf => [.leaf span leaf]
  | .group _ (.image _) _ => []
  | .group span kind parts => [.group span kind (withoutImages parts)]

/-- Inline content without its images. -/
def withoutImages : List Inline → List Inline
  | [] => []
  | node :: nodes => nodeWithoutImages node ++ withoutImages nodes

end

mutual

theorem nodeWithoutImages_eq_self : ∀ node, nodeHasImage node = false → nodeWithoutImages node = [node]
  | .leaf _ _, _ => by rw [nodeWithoutImages]
  | .group _ kind parts, h => by
    cases kind with
    | image address =>
      rw [nodeHasImage] at h
      cases h
    | _ =>
      rw [nodeHasImage] at h
      · rw [nodeWithoutImages, withoutImages_eq_self parts h]
        nofun
      · nofun

/-- Content without images stays as it is. -/
theorem withoutImages_eq_self : ∀ nodes, hasImage nodes = false → withoutImages nodes = nodes
  | [], _ => by rw [withoutImages]
  | node :: nodes, h => by
    rw [hasImage, Bool.or_eq_false_iff] at h
    rw [withoutImages, nodeWithoutImages_eq_self node h.1, withoutImages_eq_self nodes h.2,
      List.singleton_append]

end

mutual

theorem imagesOfNode_eq_nil_iff (file : Nat) :
    ∀ node, imagesOfNode file node = [] ↔ nodeHasImage node = false
  | .leaf _ _ => by
    rw [imagesOfNode, nodeHasImage]
    exact iff_of_true rfl rfl
  | .group span kind parts => by
    have hparts := imagesOfContent_eq_nil_iff file parts
    cases kind with
    | image address =>
      rw [imagesOfNode, nodeHasImage]
      exact iff_of_false nofun nofun
    | _ =>
      rw [imagesOfNode, nodeHasImage]
      · exact hparts
      · nofun

/-- A quote leaves something out of a line exactly when the line has an image. -/
theorem imagesOfContent_eq_nil_iff (file : Nat) :
    ∀ nodes, imagesOfContent file nodes = [] ↔ hasImage nodes = false
  | [] => by
    rw [imagesOfContent, hasImage]
    exact iff_of_true rfl rfl
  | node :: nodes => by
    rw [imagesOfContent, hasImage, List.append_eq_nil_iff, Bool.or_eq_false_iff,
      imagesOfNode_eq_nil_iff file node, imagesOfContent_eq_nil_iff file nodes]

end

/-! ## Flattening -/

theorem sameWords_collapseBreaks (t : Text) : SameWords (RichText.collapseBreaks t) t := by
  induction t with
  | nil => exact .refl []
  | cons c t ih =>
    unfold RichText.collapseBreaks
    split
    · next h =>
      -- one line break fewer, in front of another
      obtain ⟨rfl, hnext⟩ : c = '\n' ∧ t.head? = some '\n' := by simpa using h
      obtain ⟨u, rfl⟩ := List.head?_eq_some_iff.1 hnext
      have hbreaks : SameWords ['\n'] ['\n', '\n'] := .blanks (by decide) rfl (by decide) rfl
      exact ih.trans (hbreaks.append (.refl u))
    · exact .append (.refl [c]) ih

theorem sameWords_indentBreaks (t : Text) : SameWords (RichText.indentBreaks t) t := by
  induction t with
  | nil => exact .refl []
  | cons c t ih =>
    have hfirst : SameWords (if c = '\n' then ['\n', ' ', ' '] else [c]) [c] := by
      split
      · next hc =>
        rw [hc]
        exact .blanks (by decide) rfl (by decide) rfl
      · exact .refl [c]
    rw [RichText.indentBreaks_cons]
    exact hfirst.append ih

/-- **Flattening keeps the words.** -/
theorem words_flatten (nodes : RichText) :
    Text.words (RichText.flatten nodes) = Text.words (RichNode.spellAll nodes) := by
  rw [RichText.flatten, (sameWords_indentBreaks _).words_eq, (sameWords_collapseBreaks _).words_eq,
    Text.words_trim]

/-! ## Lines -/

theorem contentText_append (style : LinkStyle) (nodes more : List Inline) :
    contentText style (nodes ++ more) = contentText style nodes ++ contentText style more := by
  induction nodes with
  | nil => rw [List.nil_append, contentText, List.nil_append]
  | cons node nodes ih =>
    rw [List.cons_append, contentText, contentText, ih, List.append_assoc]

mutual

theorem sameWords_node : ∀ node : Inline,
    SameWords (RichNode.spellAll (quotedInline node)) (contentText .label (nodeWithoutImages node))
  | .leaf span leaf => by
    -- a soft break is a line break in a quote, and a space elsewhere
    have hbreak : SameWords ['\n'] [' '] := .blanks (by decide) rfl (by decide) rfl
    rw [nodeWithoutImages, contentText, contentText, nodeText, List.append_nil]
    cases leaf with
    | softBreak => exact hbreak
    | _ => simpa [quotedInline, RichNode.spellAll, RichNode.spell, leafChars] using .refl _
  | .group span kind parts => by
    have hparts := sameWords_content parts
    rw [quotedInline]
    cases kind with
    | image address =>
      rw [nodeWithoutImages]
      exact .refl []
    | _ =>
      rw [nodeWithoutImages, contentText, contentText, nodeText, groupText_label, List.append_nil]
      · show SameWords (RichNode.spellAll [.span _]) _
        rw [RichNode.spellAll, RichNode.spell, RichNode.spellAll, List.append_nil]
        exact hparts
      · nofun

/-- Without its images, a line has the same words in a quote as elsewhere. -/
theorem sameWords_content : ∀ nodes : List Inline,
    SameWords (RichNode.spellAll (quotedContent nodes)) (contentText .label (withoutImages nodes))
  | [] => .refl []
  | node :: nodes => by
    rw [quotedContent, withoutImages, RichNode.spellAll_append, contentText_append]
    exact .append (sameWords_node node) (sameWords_content nodes)

end

theorem quotedParts_paragraph (span : Span) (content : List Inline) :
    quotedParts [.paragraph span content] = [.container (quotedContent content)] := by
  rw [quotedParts, quotedPart, quotedParts, List.append_nil]

theorem quotedOmissions_paragraph (file : Nat) (span : Span) (content : List Inline) :
    quotedOmissions file [.paragraph span content] = imagesOfContent file content := by
  rw [quotedOmissions, quotedOmission, quotedOmissions, List.append_nil]

/-- The break that ends a paragraph makes no words. -/
theorem words_container (nodes : List RichNode) :
    Text.words (RichText.flatten [.container nodes]) = Text.words (RichNode.spellAll nodes) := by
  rw [words_flatten, RichNode.spellAll, RichNode.spell, RichNode.spellAll, List.append_nil,
    Text.words_append_blank (List.all_eq_true.1 rfl)]

/-- **A quote reads a line as others do, but for images.**  Let a quote hold one paragraph.  It is read
to its end, and the paragraph would be read alike at any other place of a quote.  The flat text has the
words of the line without its images, and each image is reported that stands in no other.  So it has the
words that a heading, a bullet or a cell would have, and nothing is reported, exactly when there is no
image. -/
theorem quote_reads_line_iff (file : Nat) (content : List Inline) (outer span : Span)
    (rest : List Located) :
    let quote := quoteNodes file [] [] []
      (partEvents [.paragraph span content] ++ (.finish .quote, outer) :: rest)
    let flat := RichText.flatten quote.nodes
    let line := (inlineText .label [] [] (inlineEvents content)).1
    let kept := (inlineText .label [] [] (inlineEvents (withoutImages content))).1
    quote.rest = rest ∧
    QuotedAs file (partEvents [.paragraph span content]) quote.nodes quote.omissions ∧
    Text.words flat = Text.words kept ∧
    quote.omissions = imagesOfContent file content ∧
    (Text.words flat = Text.words line ∧ quote.omissions = [] ↔ hasImage content = false) := by
  intro quote flat line kept
  have hquote : quote = ⟨[.container (quotedContent content)], imagesOfContent file content, rest⟩ := by
    rw [← quotedParts_paragraph span, ← quotedOmissions_paragraph file span]
    exact quoteNodes_quote _ outer rest
  have hread : ∀ nodes : List Inline,
      (inlineText .label [] [] (inlineEvents nodes)).1 = contentText .label nodes := by
    intro nodes
    have hnodes := inlineText_content .label [] [] nodes []
    rw [List.append_nil, List.nil_append] at hnodes
    rw [hnodes]
    rfl
  have hwords : Text.words flat = Text.words kept := by
    show Text.words (RichText.flatten quote.nodes) = _
    rw [hquote, words_container, (sameWords_content content).words_eq, ← hread]
  have homissions : quote.omissions = imagesOfContent file content := by rw [hquote]
  refine ⟨by rw [hquote], ?_, hwords, homissions, ?_⟩
  · rw [hquote, ← quotedParts_paragraph span, ← quotedOmissions_paragraph file span]
    exact quotedAs_parts _
  · rw [homissions, imagesOfContent_eq_nil_iff]
    refine ⟨And.right, fun himage => ⟨?_, himage⟩⟩
    rw [hwords]
    show Text.words (inlineText .label [] [] (inlineEvents (withoutImages content))).1 = _
    rw [withoutImages_eq_self content himage]

/-- A line that reads `see a`, where `a` is the text of an image. -/
def imageLine : List Inline :=
  [.leaf ⟨2, 6⟩ (.text "see ".toList), .group ⟨6, 17⟩ (.image "b.png".toList) [.leaf ⟨8, 9⟩ (.text ['a'])]]

/-- A quote leaves the image out with its text, where a heading keeps the text. -/
theorem imageLine_cut_short :
    let quote := quoteNodes 0 [] [] []
      (partEvents [.paragraph ⟨2, 18⟩ imageLine] ++ [(.finish .quote, ⟨0, 18⟩)])
    let line := (inlineText .label [] [] (inlineEvents imageLine)).1
    RichText.flatten quote.nodes = "see".toList ∧ line = "see a".toList ∧
    Text.words (RichText.flatten quote.nodes) ≠ Text.words line ∧
    quote.omissions = [⟨.other, ⟨6, 17⟩, 0⟩] := by
  decide +kernel

end Scenarist.Reading
