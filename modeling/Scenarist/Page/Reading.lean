/-
  Reading — from the events of a document to the blocks of a page.

  1. Every reader takes events off the front and gives what follows.  None relies on the events
     being well nested: one that does not fit is passed over or left to the reader outside, and at
     the end everything that is open counts as closed.

  2. Headings, bullets and cells are read as the text that is visible.  A paragraph keeps the markup
     of its links where that can be undone, because it may become a step.

  3. What is open is kept on a stack: links in a line of text, items and lists in a list, groups in
     a quote.  So each reader is one loop over the events.
-/
import Scenarist.Markdown.Event
import Scenarist.Page.Block
import Scenarist.Page.Omission

namespace Scenarist

open Markdown (Event Located Tag TagEnd)

namespace Reading

/-! ## Passing over events -/

/-- How many things are open after an event, if `depth` were open before it. -/
def depthAfter (depth : Nat) : Event → Nat
  | .start _ => depth + 1
  | .finish _ => depth - 1
  | _ => depth

/-- What follows the event after which nothing is open any more; `depth` things are open before. -/
def skip (depth : Nat) : List Located → List Located
  | [] => []
  | (e, _) :: es =>
      if depthAfter depth e = 0 then es else skip (depthAfter depth e) es

/-- What follows the next end of the given kind. -/
def skipPast (tag : TagEnd) : List Located → List Located
  | [] => []
  | (e, _) :: es => if e = .finish tag then es else skipPast tag es

/-- What is left out when a thing is passed over. -/
def omission (file : Nat) (tag : Tag) (span : Markdown.Span) : Omission :=
  let construct := match tag with
    | .code => .code
    | .list (some _) => .numberedList
    | .html => .html
    | .footnote => .footnote
    | _ => Construct.other
  ⟨construct, span, file⟩

/-! ## Lines of text -/

/-- How a link is written. -/
inductive LinkStyle where
  /-- Its label and its address, if that can be undone. -/
  | markup
  /-- Its label. -/
  | label
  deriving DecidableEq, Repr

/-- Whether link markup gives back the label when it is undone. -/
def unwrapsCleanly (label address : Text) : Bool :=
  !label.isEmpty && !label.any (· == ']') && !address.isEmpty && !address.any (· == ')')

/-- A link as text. -/
def linkText (style : LinkStyle) (label address : Text) : Text :=
  if style = .markup && unwrapsCleanly label address then
    '[' :: label ++ "](".toList ++ address ++ [')']
  else label

/-- A link that is open: the text before it, and its address. -/
structure OpenLink where
  /-- The text before the link. -/
  before : Text
  /-- The address of the link. -/
  address : Text

/-- The text up to the end of a link whose label is given. -/
def OpenLink.close (style : LinkStyle) (label : Text) (l : OpenLink) : Text :=
  l.before ++ linkText style label l.address

/-- The text of the inline content that comes next, inside the given links, after the given text,
and what follows it. -/
def inlineText (style : LinkStyle) (links : List OpenLink) (text : Text) :
    List Located → Text × List Located
  | [] => (links.foldl (OpenLink.close style) text, [])
  | (e, s) :: es =>
      match e with
      | .text t => inlineText style links (text ++ t) es
      | .code t => inlineText style links (text ++ t) es
      | .softBreak => inlineText style links (text ++ [' ']) es
      | .hardBreak => inlineText style links (text ++ ['\n']) es
      | .inlineHtml => inlineText style links text es
      | .start (.link address) => inlineText style (⟨text, address⟩ :: links) [] es
      | .finish .link =>
          match links with
          | [] => (text, (e, s) :: es)
          | l :: links => inlineText style links (l.close style text) es
      | .start .emphasis => inlineText style links text es
      | .start .strong => inlineText style links text es
      | .start .strikethrough => inlineText style links text es
      | .start (.image _) => inlineText style links text es
      | .finish .emphasis => inlineText style links text es
      | .finish .strong => inlineText style links text es
      | .finish .strikethrough => inlineText style links text es
      | .finish .image => inlineText style links text es
      | _ => (links.foldl (OpenLink.close style) text, (e, s) :: es)

/-- The text of a paragraph, a heading or a cell that has started, and what follows its end. -/
def leafText (style : LinkStyle) (tag : TagEnd) (es : List Located) : Text × List Located :=
  let (text, es) := inlineText style [] [] es
  (text, skipPast tag es)

/-- The text of the inline content that comes next in an item, and what follows it; an event that is
no inline content is passed over. -/
def runText (es : List Located) : Text × List Located :=
  let (text, rest) := inlineText .label [] [] es
  (text, if rest.length = es.length then rest.drop 1 else rest)

/-! ## What is left gets no longer -/

theorem skip_length (depth : Nat) (es : List Located) : (skip depth es).length ≤ es.length := by
  induction es generalizing depth with
  | nil => simp [skip]
  | cons e es ih =>
    simp only [skip]
    split
    · simp
    · exact Nat.le_succ_of_le (ih _)

/-- Passing over what starts here takes at least one event. -/
theorem skip_lt (depth : Nat) (e : Located) (es : List Located) :
    (skip depth (e :: es)).length < (e :: es).length := by
  simp only [skip, List.length_cons]
  split
  · exact Nat.lt_succ_self _
  · exact Nat.lt_succ_of_le (skip_length _ _)

theorem skipPast_length (tag : TagEnd) (es : List Located) :
    (skipPast tag es).length ≤ es.length := by
  induction es with
  | nil => simp [skipPast]
  | cons e es ih =>
    simp only [skipPast]
    split
    · simp
    · exact Nat.le_succ_of_le ih

theorem inlineText_length (style : LinkStyle) (links : List OpenLink) (text : Text)
    (es : List Located) : (inlineText style links text es).2.length ≤ es.length := by
  induction es generalizing links text with
  | nil => simp [inlineText]
  | cons e es ih =>
    obtain ⟨e, s⟩ := e
    unfold inlineText
    split <;> try (exact Nat.le_succ_of_le (ih _ _))
    · split
      · simp
      · exact Nat.le_succ_of_le (ih _ _)
    · simp

theorem leafText_length (style : LinkStyle) (tag : TagEnd) (es : List Located) :
    (leafText style tag es).2.length ≤ es.length :=
  Nat.le_trans (skipPast_length _ _) (inlineText_length _ _ _ _)

/-- The text of an item takes at least one event. -/
theorem runText_lt (e : Located) (es : List Located) :
    (runText (e :: es)).2.length < (e :: es).length := by
  have := inlineText_length .label [] [] (e :: es)
  simp only [runText]
  split
  · simp only [List.length_drop, List.length_cons] at *
    omega
  · omega

/-! ## Tables -/

/-- The rows of a table, after the given rows and the given cells of the next row, both last first,
and what follows the table. -/
def tableRows (rows : List (List Text)) (row : List Text) :
    List Located → List (List Text) × List Located
  | [] => (rows.reverse, [])
  | (e, _) :: es =>
      match e with
      | .finish .table => (rows.reverse, es)
      | .finish .tableHead => tableRows (row.reverse :: rows) [] es
      | .finish .tableRow => tableRows (row.reverse :: rows) [] es
      | .start .tableCell =>
          let cell := leafText .label .tableCell es
          have := leafText_length .label .tableCell es
          tableRows rows (Text.trim cell.1 :: row) cell.2
      | _ => tableRows rows row es
termination_by es => es.length
decreasing_by all_goals (simp only [List.length_cons]; omega)

theorem tableRows_length (rows : List (List Text)) (row : List Text) (es : List Located) :
    (tableRows rows row es).2.length ≤ es.length := by
  fun_induction tableRows rows row es <;> simp_all +zetaDelta <;> omega

/-! ## Lists -/

/-- A run of text put to a text, with a space between if neither is empty. -/
def joinRun (text run : Text) : Text :=
  let run := Text.trim run
  if run.isEmpty then text else if text.isEmpty then run else text ++ ' ' :: run

/-- What is open inside a list, the list included. -/
inductive Open where
  /-- A list. -/
  | list
  /-- An item: the blocks before it, and its text so far. -/
  | item (before : List Block) (text : Text)

/-- The blocks when everything that is open ends. -/
def closeAll (blocks : List Block) : List Open → List Block
  | [] => blocks
  | .list :: stack => closeAll blocks stack
  | .item before text :: stack => closeAll (before ++ .bullet text :: blocks) stack

/-- What a list is read to. -/
structure ListReading where
  /-- A bullet for each item, each before those nested in it. -/
  blocks : List Block
  /-- What was left out. -/
  omissions : List Omission
  /-- What follows the list. -/
  rest : List Located

/-- Reads a list.  `stack` is what is open, innermost first; `blocks` are the blocks since its
innermost item, or since the list if there is none. -/
def bullets (file : Nat) (stack : List Open) (blocks : List Block) (omissions : List Omission) :
    List Located → ListReading
  | [] => ⟨closeAll blocks stack, omissions, []⟩
  | (e, s) :: es =>
      match stack with
      | [] => ⟨blocks, omissions, (e, s) :: es⟩
      | .list :: below =>
          match e with
          | .finish .list => bullets file below blocks omissions es
          | .start .item => bullets file (.item blocks [] :: stack) [] omissions es
          | _ => bullets file stack blocks omissions es
      | .item before text :: below =>
          match e with
          | .finish .item =>
              bullets file below (before ++ .bullet text :: blocks) omissions es
          | .start .paragraph =>
              let run := leafText .label .paragraph es
              have := leafText_length .label .paragraph es
              bullets file (.item before (joinRun text run.1) :: below) blocks omissions run.2
          | .start (.list none) => bullets file (.list :: stack) blocks omissions es
          | .start tag =>
              if tag.isInline then
                let run := runText ((e, s) :: es)
                have := runText_lt (e, s) es
                bullets file (.item before (joinRun text run.1) :: below) blocks omissions run.2
              else
                have := skip_lt 0 (e, s) es
                bullets file stack blocks (omissions ++ [omission file tag s])
                  (skip 0 ((e, s) :: es))
          | _ =>
              let run := runText ((e, s) :: es)
              have := runText_lt (e, s) es
              bullets file (.item before (joinRun text run.1) :: below) blocks omissions run.2
termination_by es => es.length
decreasing_by all_goals (simp only [List.length_cons] at *; omega)

theorem bullets_length (file : Nat) (stack : List Open) (blocks : List Block)
    (omissions : List Omission) (es : List Located) :
    (bullets file stack blocks omissions es).rest.length ≤ es.length := by
  fun_induction bullets file stack blocks omissions es <;> simp_all +zetaDelta <;> omega

/-! ## Quotes -/

/-- A group that is open in a quote: what ends it, and the nodes before it. -/
structure OpenGroup where
  /-- What ends the group. -/
  ends : TagEnd
  /-- The nodes before the group. -/
  before : List RichNode

/-- Whether a tag starts a group that a quote keeps. -/
def isGroup : Tag → Bool
  | .paragraph | .quote | .heading _ | .item => true
  | .emphasis | .strong | .strikethrough | .link _ => true
  | _ => false

/-- The node of a group that has ended. -/
def endNode (tag : TagEnd) (nodes : List RichNode) : RichNode :=
  match tag with
  | .emphasis | .strong | .strikethrough | .link => .span nodes
  | _ => .container nodes

/-- What a quote is read to. -/
structure QuoteReading where
  /-- Its nodes. -/
  nodes : List RichNode
  /-- What was left out. -/
  omissions : List Omission
  /-- What follows the quote. -/
  rest : List Located

/-- Reads a quote that has started.  `stack` are the open groups, innermost first, and `nodes` the
nodes of the innermost one so far.  The list around an item leaves no trace. -/
def quoteNodes (file : Nat) (stack : List OpenGroup) (nodes : List RichNode)
    (omissions : List Omission) : List Located → QuoteReading
  | [] =>
      ⟨stack.foldl (fun nodes g => g.before ++ [endNode g.ends nodes]) nodes, omissions, []⟩
  | (e, s) :: es =>
      match e with
      | .text t => quoteNodes file stack (nodes ++ [.text t]) omissions es
      | .code t => quoteNodes file stack (nodes ++ [.text t]) omissions es
      | .softBreak => quoteNodes file stack (nodes ++ [.lineBreak]) omissions es
      | .hardBreak => quoteNodes file stack (nodes ++ [.lineBreak]) omissions es
      | .start (.list _) => quoteNodes file stack nodes omissions es
      | .start tag =>
          if isGroup tag then
            quoteNodes file (⟨tag.finish, nodes⟩ :: stack) [] omissions es
          else
            have := skip_lt 0 (e, s) es
            quoteNodes file stack nodes (omissions ++ [omission file tag s]) (skip 0 ((e, s) :: es))
      | .finish tag =>
          match stack with
          | [] =>
              if tag = .quote then ⟨nodes, omissions, es⟩
              else quoteNodes file stack nodes omissions es
          | g :: below =>
              if tag = g.ends then
                quoteNodes file below (g.before ++ [endNode g.ends nodes]) omissions es
              else quoteNodes file stack nodes omissions es
      | _ => quoteNodes file stack nodes omissions es
termination_by es => es.length
decreasing_by all_goals (simp only [List.length_cons] at *; omega)

theorem quoteNodes_length (file : Nat) (stack : List OpenGroup) (nodes : List RichNode)
    (omissions : List Omission) (es : List Located) :
    (quoteNodes file stack nodes omissions es).rest.length ≤ es.length := by
  fun_induction quoteNodes file stack nodes omissions es <;> simp_all +zetaDelta <;> omega

end Reading

/-! ## Pages -/

/-- A page that has been read. -/
structure Page where
  /-- Its blocks. -/
  blocks : List Block
  /-- What was left out. -/
  omissions : List Omission
  deriving DecidableEq, Repr

namespace Page

open Reading

/-- Reads the events of a page, after the given blocks and omissions. -/
def readEvents (file : Nat) (page : Page) : List Located → Page
  | [] => page
  | (e, s) :: es =>
      match e with
      | .start (.heading level) =>
          let found := leafText .label .heading es
          have := leafText_length .label .heading es
          readEvents file { page with blocks := page.blocks ++ [.heading level found.1] } found.2
      | .start .paragraph =>
          let found := leafText .markup .paragraph es
          have := leafText_length .markup .paragraph es
          readEvents file { page with blocks := page.blocks ++ [.paragraph found.1] } found.2
      | .start .quote =>
          let found := quoteNodes file [] [] [] es
          have := quoteNodes_length file [] [] [] es
          readEvents file
            ⟨page.blocks ++ [.quote found.nodes], page.omissions ++ found.omissions⟩ found.rest
      | .start (.list none) =>
          let found := bullets file [.list] [] [] es
          have := bullets_length file [.list] [] [] es
          readEvents file
            ⟨page.blocks ++ found.blocks, page.omissions ++ found.omissions⟩ found.rest
      | .start .table =>
          let found := tableRows [] [] es
          have := tableRows_length [] [] es
          readEvents file { page with blocks := page.blocks ++ [.table found.1] } found.2
      | .start tag =>
          have := skip_lt 0 (e, s) es
          readEvents file { page with omissions := page.omissions ++ [omission file tag s] }
            (skip 0 ((e, s) :: es))
      | _ => readEvents file page es
termination_by es => es.length
decreasing_by all_goals (simp only [List.length_cons] at *; omega)

/-- Reads the Markdown source of a page; `file` is the number that omissions carry. -/
def read (file : Nat) (source : Text) : Page :=
  readEvents file ⟨[], []⟩ (Markdown.events source)

end Page

end Scenarist
