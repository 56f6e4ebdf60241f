/-
  Cursor — the readers told as loops inside loops that share one place in the events of a page.

  1. The readers of a page take events off a list and keep on a stack what is open.  Here each is a
     `Loop` of its own with what it has gathered, and all move one cursor.  `Loop.turn` is one turn
     for the event at the cursor, in which other loops may run.  `Loop.run` goes round until a turn
     leaves the loop or the events have ended.

  2. Nothing in this definition makes the cursor move.  `run` has fuel for so many turns, one in
     another or one behind another.  A loop that went round for ever would give `none` for any fuel.

  3. `Loop.Reads` says what a loop should give: what the readers of the page give for the events
     from the cursor on.
-/
import Scenarist.Page.Reading

namespace Scenarist.Reading

open Markdown (Span TagEnd Event Located)

/-! ## Loops -/

/-- What a loop is for. -/
inductive Kind where
  /-- To gather a line of text. -/
  | line
  /-- To get past an end. -/
  | finish
  /-- To get past a thing that is left out. -/
  | skip
  /-- To gather the rows of a table. -/
  | table
  /-- To gather the items of a list. -/
  | list
  /-- To gather what is in an item. -/
  | item
  /-- To gather the nodes of a quote or of a group in it. -/
  | group
  /-- To gather the blocks of a page. -/
  | page
  deriving DecidableEq

/-- What a loop gives when it is left. -/
abbrev Kind.Result : Kind → Type
  | .line => Text
  | .finish => Unit
  | .skip => Unit
  | .table => List (List Text)
  | .list => List Block × List Omission
  | .item => List Block × List Omission
  | .group => List RichNode × List Omission
  | .page => Page

/-- A loop and what it has gathered so far. -/
inductive Loop : Kind → Type where
  /-- A line and its text. -/
  | line (style : LinkStyle) (text : Text) : Loop .line
  /-- The next end of the given kind is looked for. -/
  | finish (tag : TagEnd) : Loop .finish
  /-- So many things are open in what is left out. -/
  | skip (depth : Nat) : Loop .skip
  /-- The rows of a table and the cells of the next row, both last first. -/
  | table (rows : List (List Text)) (row : List Text) : Loop .table
  /-- A list: its bullets, and what was left out. -/
  | list (blocks : List Block) (omissions : List Omission) : Loop .list
  /-- An item: its text, the bullets nested in it, and what was left out. -/
  | item (text : Text) (blocks : List Block) (omissions : List Omission) : Loop .item
  /-- A group: what ends it, its nodes, and what was left out. -/
  | group (ends : TagEnd) (nodes : List RichNode) (omissions : List Omission) : Loop .group
  /-- The page. -/
  | page (read : Page) : Loop .page

namespace Loop

/-- What a loop gives if it is left now. -/
def result : {k : Kind} → Loop k → k.Result
  | _, .line _ text => text
  | _, .finish _ => ()
  | _, .skip _ => ()
  | _, .table rows _ => rows.reverse
  | _, .list blocks omissions => (blocks, omissions)
  | _, .item text blocks omissions => (.bullet text :: blocks, omissions)
  | _, .group _ nodes omissions => (nodes, omissions)
  | _, .page read => read

end Loop

/-- What is to be done after a turn. -/
inductive Turn (k : Kind) where
  /-- Go round again. -/
  | again (loop : Loop k)
  /-- Leave the loop. -/
  | leave

/-- How loops run from a place on: what they give, and where the cursor is then. -/
abbrev Runner := ⦃k : Kind⦄ → Loop k → Nat → Option (k.Result × Nat)

/-! ## Turns and runs -/

/-- Whether a link ends at the cursor. -/
def linkEnds (events : List Located) (i : Nat) : Bool :=
  match events[i]? with
  | some (.finish .link, _) => true
  | _ => false

namespace Loop

section Definitions

variable (file : Nat) (events : List Located) (go : Runner)

/-- A turn of a line.  What belongs to no line ends it, and so does the end of a link, which is left
to the link around the line. -/
def lineTurn (style : LinkStyle) (text : Text) (e : Event) (i : Nat) : Option (Turn .line × Nat) :=
  match e with
  | .text t => some (.again (.line style (text ++ t)), i + 1)
  | .code t => some (.again (.line style (text ++ t)), i + 1)
  | .softBreak => some (.again (.line style (text ++ [' '])), i + 1)
  | .hardBreak => some (.again (.line style (text ++ ['\n'])), i + 1)
  | .inlineHtml => some (.again (.line style text), i + 1)
  | .start (.link address) => do
      let (label, j) ← go (.line style []) (i + 1)
      some (.again (.line style (text ++ linkText style label address)),
        if linkEnds events j then j + 1 else j)
  | .start tag => if tag.isInline then some (.again (.line style text), i + 1) else some (.leave, i)
  | .finish .emphasis => some (.again (.line style text), i + 1)
  | .finish .strong => some (.again (.line style text), i + 1)
  | .finish .strikethrough => some (.again (.line style text), i + 1)
  | .finish .image => some (.again (.line style text), i + 1)
  | _ => some (.leave, i)

/-- The text of a paragraph, a heading or a cell: a line, then the way to the end. -/
def leaf (style : LinkStyle) (tag : TagEnd) (i : Nat) : Option (Text × Nat) := do
  let (text, j) ← go (.line style []) i
  let (_, j) ← go (.finish tag) j
  some (text, j)

/-- A turn of a table. -/
def tableTurn (rows : List (List Text)) (row : List Text) (e : Event) (i : Nat) :
    Option (Turn .table × Nat) :=
  match e with
  | .finish .table => some (.leave, i + 1)
  | .finish .tableHead => some (.again (.table (row.reverse :: rows) []), i + 1)
  | .finish .tableRow => some (.again (.table (row.reverse :: rows) []), i + 1)
  | .start .tableCell => do
      let (cell, j) ← leaf go .label .tableCell (i + 1)
      some (.again (.table rows (Text.trim cell :: row)), j)
  | _ => some (.again (.table rows row), i + 1)

/-- A turn of a list. -/
def listTurn (blocks : List Block) (omissions : List Omission) (e : Event) (i : Nat) :
    Option (Turn .list × Nat) :=
  match e with
  | .finish .list => some (.leave, i + 1)
  | .start .item => do
      let ((bullets, omissions), j) ← go (.item [] [] omissions) (i + 1)
      some (.again (.list (blocks ++ bullets) omissions), j)
  | _ => some (.again (.list blocks omissions), i + 1)

/-- A run of text in an item.  The line may end where it starts; then that event is passed over. -/
def runTurn (text : Text) (blocks : List Block) (omissions : List Omission) (i : Nat) :
    Option (Turn .item × Nat) := do
  let (t, j) ← go (.line .label []) i
  some (.again (.item (joinRun text t) blocks omissions), if j = i then i + 1 else j)

/-- A turn of an item. -/
def itemTurn (text : Text) (blocks : List Block) (omissions : List Omission) (e : Event)
    (s : Span) (i : Nat) : Option (Turn .item × Nat) :=
  match e with
  | .finish .item => some (.leave, i + 1)
  | .start .paragraph => do
      let (t, j) ← leaf go .label .paragraph (i + 1)
      some (.again (.item (joinRun text t) blocks omissions), j)
  | .start (.list none) => do
      let ((blocks, omissions), j) ← go (.list blocks omissions) (i + 1)
      some (.again (.item text blocks omissions), j)
  | .start tag =>
      if tag.isInline then runTurn go text blocks omissions i
      else do
        let (_, j) ← go (.skip 0) i
        some (.again (.item text blocks (omissions ++ [omission file tag s])), j)
  | _ => runTurn go text blocks omissions i

/-- A turn of a quote or of a group in it. -/
def groupTurn (ends : TagEnd) (nodes : List RichNode) (omissions : List Omission) (e : Event)
    (s : Span) (i : Nat) : Option (Turn .group × Nat) :=
  match e with
  | .finish tag =>
      some (if tag = ends then .leave else .again (.group ends nodes omissions), i + 1)
  | .text t => some (.again (.group ends (nodes ++ [.text t]) omissions), i + 1)
  | .code t => some (.again (.group ends (nodes ++ [.text t]) omissions), i + 1)
  | .softBreak => some (.again (.group ends (nodes ++ [.lineBreak]) omissions), i + 1)
  | .hardBreak => some (.again (.group ends (nodes ++ [.lineBreak]) omissions), i + 1)
  | .start (.list _) => some (.again (.group ends nodes omissions), i + 1)
  | .start tag =>
      if isGroup tag then do
        let ((inner, omissions), j) ← go (.group tag.finish [] omissions) (i + 1)
        some (.again (.group ends (nodes ++ [endNode tag.finish inner]) omissions), j)
      else do
        let (_, j) ← go (.skip 0) i
        some (.again (.group ends nodes (omissions ++ [omission file tag s])), j)
  | _ => some (.again (.group ends nodes omissions), i + 1)

/-- A turn of the page. -/
def pageTurn (read : Page) (e : Event) (s : Span) (i : Nat) :
    Option (Turn .page × Nat) :=
  match e with
  | .start (.heading level) => do
      let (text, j) ← leaf go .label .heading (i + 1)
      some (.again (.page { read with blocks := read.blocks ++ [.heading level text] }), j)
  | .start .paragraph => do
      let (text, j) ← leaf go .markup .paragraph (i + 1)
      some (.again (.page { read with blocks := read.blocks ++ [.paragraph text] }), j)
  | .start .quote => do
      let ((nodes, omissions), j) ← go (.group .quote [] []) (i + 1)
      some (.again (.page ⟨read.blocks ++ [.quote nodes], read.omissions ++ omissions⟩), j)
  | .start (.list none) => do
      let ((bullets, omissions), j) ← go (.list [] []) (i + 1)
      some (.again (.page ⟨read.blocks ++ bullets, read.omissions ++ omissions⟩), j)
  | .start .table => do
      let (rows, j) ← go (.table [] []) (i + 1)
      some (.again (.page { read with blocks := read.blocks ++ [.table rows] }), j)
  | .start tag => do
      let (_, j) ← go (.skip 0) i
      some (.again
        (.page { read with omissions := read.omissions ++ [omission file tag s] }), j)
  | _ => some (.again (.page read), i + 1)

/-- One turn of a loop for the event at the cursor: what is to be done, and where the cursor is. -/
def turn {k : Kind} (loop : Loop k) (e : Located) (i : Nat) : Option (Turn k × Nat) :=
  match loop with
  | .line style text => lineTurn events go style text e.1 i
  | .finish tag => some (if e.1 = .finish tag then .leave else .again (.finish tag), i + 1)
  | .skip depth =>
      let depth := depthAfter depth e.1
      some (if depth = 0 then .leave else .again (.skip depth), i + 1)
  | .table rows row => tableTurn go rows row e.1 i
  | .list blocks omissions => listTurn go blocks omissions e.1 i
  | .item text blocks omissions => itemTurn file go text blocks omissions e.1 e.2 i
  | .group ends nodes omissions => groupTurn file go ends nodes omissions e.1 e.2 i
  | .page read => pageTurn file go read e.1 e.2 i

/-- Runs a loop with the cursor at `i`: what it gives, and where the cursor is then. -/
def run : Nat → Runner
  | 0, _, _, _ => none
  | fuel + 1, _, loop, i =>
      match events[i]? with
      | none => some (loop.result, i)
      | some e => do
          match ← turn file events (run fuel) loop e i with
          | (.again loop, j) => run fuel loop j
          | (.leave, j) => some (loop.result, j)

end Definitions

/-! ## What a loop should give -/

/-- Whether a loop, run on the events `es`, should give `r` and leave `rest`.  A loop that can stand
inside others is told with all that may be open around it, since a reader of the page goes on
there. -/
def Reads (file : Nat) : {k : Kind} → Loop k → List Located → k.Result → List Located → Prop
  | _, .line style text, es, r, rest =>
      (∀ links, inlineText style links text es = inlineText style links r rest) ∧
        inlineText style [] r rest = (r, rest)
  | _, .finish tag, es, _, rest => skipPast tag es = rest
  | _, .skip depth, es, _, rest => Reading.skip depth es = rest
  | _, .table rows row, es, r, rest => tableRows rows row es = (r, rest)
  | _, .list blocks omissions, es, r, rest => ∀ below,
      bullets file (.list :: below) blocks omissions es = bullets file below r.1 r.2 rest
  | _, .item text blocks omissions, es, r, rest => ∀ before below,
      bullets file (.item before text :: below) blocks omissions es
        = bullets file below (before ++ r.1) r.2 rest
  | _, .group ends nodes omissions, es, r, rest =>
      (∀ before below, quoteNodes file (⟨ends, before⟩ :: below) nodes omissions es
        = quoteNodes file below (before ++ [endNode ends r.1]) r.2 rest) ∧
      (ends = .quote → quoteNodes file [] nodes omissions es = ⟨r.1, r.2, rest⟩)
  | _, .page read, es, r, rest => Page.readEvents file read es = r ∧ rest = []

/-! ## Laws -/

variable {file : Nat} {events : List Located} {k : Kind} {loop next : Loop k} {e : Located}
  {i j fuel : Nat}

theorem linkEnds_iff : linkEnds events i = true ↔ ∃ s, events[i]? = some (.finish .link, s) := by
  unfold linkEnds
  constructor
  · intro h
    split at h
    · exact ⟨_, by assumption⟩
    · cases h
  · rintro ⟨s, h⟩
    rw [h]

/-- Where the events have ended, a loop gives what it has. -/
theorem run_end (h : events.length ≤ i) :
    loop.run file events (fuel + 1) i = some (loop.result, i) := by
  rw [run, List.getElem?_eq_none h]

/-- A loop that goes round again gives what it gives from there. -/
theorem run_again (he : events[i]? = some e)
    (hturn : loop.turn file events (run file events fuel) e i = some (.again next, j)) :
    loop.run file events (fuel + 1) i = next.run file events fuel j := by
  rw [run, he]
  simp only [hturn, Option.bind_eq_bind, Option.bind_some]

/-- A loop that is left gives what it has. -/
theorem run_leave (he : events[i]? = some e)
    (hturn : loop.turn file events (run file events fuel) e i = some (.leave, j)) :
    loop.run file events (fuel + 1) i = some (loop.result, j) := by
  rw [run, he]
  simp only [hturn, Option.bind_eq_bind, Option.bind_some]

/-- Where the events have ended, a loop should give what it has. -/
theorem reads_nil (file : Nat) (loop : Loop k) : loop.Reads file [] loop.result [] := by
  cases loop with
  | line style text => exact ⟨fun links => rfl, rfl⟩
  | finish tag => rfl
  | skip depth => rfl
  | table rows row =>
    show tableRows rows row [] = _
    rw [tableRows]
    rfl
  | list blocks omissions =>
    intro below
    rw [bullets, bullets]
    rfl
  | item text blocks omissions =>
    intro before below
    rw [bullets, bullets]
    rfl
  | group ends nodes omissions =>
    constructor
    · intro before below
      rw [quoteNodes, quoteNodes]
      rfl
    · intro _
      rw [quoteNodes]
      rfl
  | page read =>
    refine ⟨?_, rfl⟩
    rw [Page.readEvents]
    rfl

end Loop

end Scenarist.Reading
