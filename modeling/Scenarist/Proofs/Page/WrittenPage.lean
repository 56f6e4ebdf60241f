/-
  Written pages — a list of blocks, written as a Markdown page, is read back block by block.

  1. **Writing.**  Each block is written in its usual form: marks before a heading, a plain line, a
     dash before a bullet, bars around cells.  An empty line comes behind each (`writtenPage`).  What
     is to be read back holds words only (`Writable`).

  2. **Lines.**  The lines of the page are those that were written (`text_sourceLines`).

  3. **One block.**  The lines of a block and its empty line lead from one state between blocks to
     the next (`step_block`), so by induction all lines lead to the end of the page
     (`between_lines`).

  4. **The page.**  It is read to the blocks it was written from, without warnings; so it converts to
     what they convert to (`read_writtenPage`).
-/
import Scenarist.Feature.Alignment
import Scenarist.Outline.Extraction
import Scenarist.Proofs.Page.PartReading
import Scenarist.Proofs.Page.WrittenBlocks

namespace Scenarist.Reading

open Markdown (Line Layout sourceLines pipeRow delimiterRow)

variable {b : Block} {bs : List Block} {t : Text}

/-! ## Writing -/

/-- A heading of any level, a paragraph, a bullet or a rectangular table, with words for text. -/
def Writable : Block → Prop
  | .heading level text => (1 ≤ level ∧ level ≤ 6) ∧ Text.IsWords text
  | .paragraph text => Text.IsWords text
  | .bullet text => Text.IsWords text
  | .table (head :: body) =>
      head ≠ [] ∧ (∀ c ∈ head, Text.IsWords c) ∧
        ∀ row ∈ body, row.length = head.length ∧ ∀ c ∈ row, Text.IsWords c
  | .table [] => False
  | .quote _ => False

instance : (b : Block) → Decidable (Writable b)
  | .heading level text =>
      inferInstanceAs (Decidable ((1 ≤ level ∧ level ≤ 6) ∧ Text.IsWords text))
  | .paragraph text => inferInstanceAs (Decidable (Text.IsWords text))
  | .bullet text => inferInstanceAs (Decidable (Text.IsWords text))
  | .table (head :: body) =>
      inferInstanceAs (Decidable (head ≠ [] ∧ (∀ c ∈ head, Text.IsWords c) ∧
        ∀ row ∈ body, row.length = head.length ∧ ∀ c ∈ row, Text.IsWords c))
  | .table [] => inferInstanceAs (Decidable False)
  | .quote _ => inferInstanceAs (Decidable False)

/-- The lines of a block. -/
def blockLines : Block → List Text
  | .heading level text => [List.replicate level '#' ++ ' ' :: text]
  | .paragraph text => [text]
  | .bullet text => ['-' :: ' ' :: text]
  | .table (head :: body) => pipeRow head :: delimiterRow head.length :: body.map pipeRow
  | .table [] => []
  | .quote _ => []

/-- The lines of a page: those of each block and an empty one behind them. -/
def pageLines (bs : List Block) : List Text := bs.flatMap fun b => blockLines b ++ [[]]

/-- A list of blocks as a Markdown page. -/
def writtenPage (bs : List Block) : Text := (pageLines bs).flatMap fun line => line ++ ['\n']

example :
    writtenPage [.heading 2 "Feature".toList, .bullet "log in".toList,
        .table [["user".toList, "key".toList], ["anna".toList, "a b".toList]]]
      = "## Feature\n\n- log in\n\n| user | key |\n|---|---|\n| anna | a b |\n\n".toList := by
  decide +kernel

/-! ## Lines -/

/-- Whether a text stands on one line. -/
def OneLine (t : Text) : Prop := ∀ c ∈ t, c ≠ '\n' ∧ c ≠ '\r'

instance (t : Text) : Decidable (OneLine t) :=
  decidable_of_iff (t.all fun c => c != '\n' && c != '\r') (by simp [OneLine])

theorem oneLine_words (ht : Text.IsWords t) : OneLine t := fun c hc =>
  ⟨ht.ne_of_mem hc (by decide) (by decide), ht.ne_of_mem hc (by decide) (by decide)⟩

theorem OneLine.append {u : Text} (ht : OneLine t) (hu : OneLine u) : OneLine (t ++ u) := by
  intro c hc
  rcases List.mem_append.1 hc with hc | hc
  · exact ht c hc
  · exact hu c hc

theorem oneLine_pipeRow {cells : List Text} (h : ∀ c ∈ cells, Text.IsWords c) :
    OneLine (pipeRow cells) := by
  have hcells : OneLine (cells.flatMap Markdown.barred) := by
    intro c hc
    obtain ⟨cell, hcell, hc⟩ := List.mem_flatMap.1 hc
    have hspace : OneLine [' '] := by decide
    have hend : OneLine [' ', '|'] := by decide
    exact (hspace.append (oneLine_words (h cell hcell))).append hend c hc
  have hbar : OneLine ['|'] := by decide
  exact hbar.append hcells

theorem oneLine_delimiterRow (n : Nat) : OneLine (delimiterRow n) := by
  have hdashes : OneLine (List.replicate n ['-', '-', '-', '|']).flatten := by
    intro c hc
    obtain ⟨dashes, hdashes, hc⟩ := List.mem_flatten.1 hc
    have hone : OneLine ['-', '-', '-', '|'] := by decide
    rw [List.eq_of_mem_replicate hdashes] at hc
    exact hone c hc
  have hbar : OneLine ['|'] := by decide
  exact hbar.append hdashes

theorem oneLine_of_mem_blockLines (hb : Writable b) (ht : t ∈ blockLines b) : OneLine t := by
  cases b with
  | heading level text =>
    obtain rfl := List.mem_singleton.1 ht
    have hmarks : OneLine (List.replicate level '#') := by
      intro c hc
      rw [List.eq_of_mem_replicate hc]
      decide
    have hspace : OneLine [' '] := by decide
    exact hmarks.append (hspace.append (oneLine_words hb.2))
  | paragraph text =>
    obtain rfl := List.mem_singleton.1 ht
    exact oneLine_words hb
  | bullet text =>
    obtain rfl := List.mem_singleton.1 ht
    have hmark : OneLine ['-', ' '] := by decide
    exact hmark.append (oneLine_words hb)
  | table rows =>
    cases rows with
    | nil => exact hb.elim
    | cons head body =>
      obtain ⟨-, hhead, hbody⟩ := hb
      rcases List.mem_cons.1 ht with rfl | ht
      · exact oneLine_pipeRow hhead
      · rcases List.mem_cons.1 ht with rfl | ht
        · exact oneLine_delimiterRow head.length
        · obtain ⟨row, hrow, rfl⟩ := List.mem_map.1 ht
          exact oneLine_pipeRow (hbody row hrow).2
  | quote content => exact hb.elim

/-- A line of a source goes up to the next line feed. -/
theorem exists_sourceLine (rest : Text) (ht : OneLine t) : ∀ pos : Nat,
    ∃ line next, line.text = t ∧
      sourceLines pos (t ++ '\n' :: rest) = line :: sourceLines next rest := by
  induction t with
  | nil =>
    intro pos
    exact ⟨⟨[], pos, pos, pos + 1⟩, pos + 1, rfl, by simp [sourceLines]⟩
  | cons c t ih =>
    intro pos
    obtain ⟨hfeed, hreturn⟩ := ht c (List.mem_cons_self ..)
    obtain ⟨line, next, htext, hlines⟩ :=
      ih (fun d hd => ht d (List.mem_cons_of_mem c hd)) (pos + c.utf8Size)
    refine ⟨{ line with glyphs := ⟨c, pos⟩ :: line.glyphs, start := pos }, next, ?_, ?_⟩
    · rw [← htext]
      rfl
    · simp [sourceLines, hfeed, hreturn, hlines]

/-- The lines of a source are the lines that were written, each with its line feed. -/
theorem text_sourceLines {ls : List Text} (hls : ∀ t ∈ ls, OneLine t) : ∀ pos : Nat,
    (sourceLines pos (ls.flatMap fun t => t ++ ['\n'])).map Line.text = ls := by
  induction ls with
  | nil =>
    intro pos
    simp [sourceLines]
  | cons t ls ih =>
    intro pos
    have hsource : ((t :: ls).flatMap fun t => t ++ ['\n'])
        = t ++ '\n' :: ls.flatMap fun t => t ++ ['\n'] := by simp
    obtain ⟨line, next, htext, hlines⟩ := exists_sourceLine (ls.flatMap fun t => t ++ ['\n'])
      (hls t (List.mem_cons_self ..)) pos
    rw [hsource, hlines, List.map_cons, htext,
      ih (fun u hu => hls u (List.mem_cons_of_mem t hu)) next]

/-! ## One block -/

variable {l : Layout} {lines : List Line}

/-- The lines of a block and the empty line behind them lead one block further. -/
theorem step_block (hl : Between l bs) (hb : Writable b)
    (hlines : lines.map Line.text = blockLines b ++ [[]]) (more : List Line) :
    ∃ m, Between m (bs ++ [b]) ∧ l.lines (lines ++ more) = m.lines more := by
  obtain ⟨written, last, rfl, hwritten, hlast⟩ := List.map_eq_append_iff.1 hlines
  obtain ⟨blank, tail, rfl, hblank, hnil⟩ := List.map_eq_cons_iff.1 hlast
  obtain rfl : tail = [] := List.map_eq_nil_iff.1 hnil
  have hempty : blank.IsEmpty := List.map_eq_nil_iff.1 hblank
  rw [List.append_assoc, List.singleton_append]
  cases b with
  | heading level text =>
    obtain ⟨line, tail, rfl, hline, hnil⟩ := List.map_eq_cons_iff.1 hwritten
    obtain rfl : tail = [] := List.map_eq_nil_iff.1 hnil
    exact step_heading hl hb.1 hb.2 hline hempty
  | paragraph text =>
    obtain ⟨line, tail, rfl, hline, hnil⟩ := List.map_eq_cons_iff.1 hwritten
    obtain rfl : tail = [] := List.map_eq_nil_iff.1 hnil
    exact step_paragraph hl hb hline hempty
  | bullet text =>
    obtain ⟨line, tail, rfl, hline, hnil⟩ := List.map_eq_cons_iff.1 hwritten
    obtain rfl : tail = [] := List.map_eq_nil_iff.1 hnil
    exact step_bullet hl hb hline hempty
  | table rows =>
    cases rows with
    | nil => exact hb.elim
    | cons head body =>
      obtain ⟨hne, hhead, hbody⟩ := hb
      obtain ⟨line, tail, rfl, hline, htail⟩ := List.map_eq_cons_iff.1 hwritten
      obtain ⟨delimiter, below, rfl, hdelimiter, hbelow⟩ := List.map_eq_cons_iff.1 htail
      have hrows : List.Forall₂ (fun line row => line.text = pipeRow row) below body := by
        have hequal : List.Forall₂ (· = ·) (below.map Line.text) (body.map pipeRow) := by
          rw [List.forall₂_eq_eq_eq]
          exact hbelow
        rwa [List.forall₂_map_left_iff, List.forall₂_map_right_iff] at hequal
      exact step_table hl hne hhead hbody hline hdelimiter hrows hempty
  | quote content => exact hb.elim

/-! ## The page -/

/-- The lines of blocks lead on by just these blocks. -/
theorem between_lines (hbs : ∀ b ∈ bs, Writable b) : ∀ {l : Layout} {cs : List Block}
    {lines : List Line}, Between l cs → lines.map Line.text = pageLines bs →
      Between (l.lines lines) (cs ++ bs) := by
  -- the invariant is `Between`; each block takes its own lines off the front
  induction bs with
  | nil =>
    intro l cs lines hl hlines
    obtain rfl : lines = [] := List.map_eq_nil_iff.1 hlines
    rw [Layout.lines, List.append_nil]
    exact hl
  | cons b bs ih =>
    intro l cs lines hl hlines
    obtain ⟨first, more, rfl, hfirst, hmore⟩ := List.map_eq_append_iff.1 hlines
    obtain ⟨m, hm, hstep⟩ := step_block hl (hbs b (List.mem_cons_self ..)) hfirst more
    have hrest := ih (fun d hd => hbs d (List.mem_cons_of_mem b hd)) hm hmore
    rw [hstep]
    rwa [List.append_assoc, List.singleton_append] at hrest

theorem definitions_between (hl : Between l bs) : l.definitions = [] := by
  cases hl <;> rfl

/-- The document of a written page is read to its blocks, with nothing left out. -/
theorem document_writtenPage (hbs : ∀ b ∈ bs, Writable b) :
    (Markdown.document (writtenPage bs)).flatMap partBlocks = bs ∧
      ∀ file, (Markdown.document (writtenPage bs)).flatMap (partOmissions file) = [] := by
  have honeLine : ∀ t ∈ pageLines bs, OneLine t := by
    intro t ht
    obtain ⟨b, hb, ht⟩ := List.mem_flatMap.1 ht
    rcases List.mem_append.1 ht with ht | ht
    · exact oneLine_of_mem_blockLines (hbs b hb) ht
    · rw [List.mem_singleton.1 ht]
      decide
  have hlines := text_sourceLines honeLine 0
  have hnothing : Tells ([] : List (Markdown.Part Markdown.Passage)).reverse [] := tells_nil
  have hstart : Between {} [] := .outside false hnothing
  have hend : Between (({} : Layout).lines (sourceLines 0 (writtenPage bs))) bs :=
    between_lines hbs hstart hlines
  have htold := tells_finish hend (Markdown.byteLength (writtenPage bs))
  have hnone := definitions_between hend
  unfold Markdown.document
  dsimp only
  rw [hnone]
  exact ⟨htold.blocks, htold.complete⟩

/-- **A written page is read back.**  A page written from headings, paragraphs, bullets and tables
of words is read to just these blocks, in their order, without a warning.  So it converts to what is
extracted and rendered from the blocks, under any options. -/
theorem read_writtenPage (file : Nat) (hbs : ∀ b ∈ bs, Writable b) :
    Page.read file (writtenPage bs) = ⟨bs, []⟩ ∧
      ∀ (options : Extraction.Options) (aligned : Bool),
        Alignment.render (Extraction.run options (Page.read file (writtenPage bs)).blocks).toOption
            aligned
          = Alignment.render (Extraction.run options bs).toOption aligned := by
  obtain ⟨hblocks, hnone⟩ := document_writtenPage hbs
  have hread : Page.read file (writtenPage bs) = ⟨bs, []⟩ := by
    rw [read_document, hblocks, hnone]
  refine ⟨hread, fun options aligned => ?_⟩
  rw [hread]

/-- A page with every kind of block, two bullets in a row and a list behind a table. -/
def mixedBlocks : List Block := [
  .heading 1 "Login".toList, .heading 6 "Errors".toList, .bullet "empty name".toList,
  .bullet "wrong key".toList,
  .table [["user".toList, "right".toList], ["anna".toList, "to read".toList]],
  .bullet "last one".toList, .paragraph "Given app is open".toList]

theorem read_writtenPage_mixedBlocks :
    (∀ b ∈ mixedBlocks, Writable b) ∧
      Page.read 0 (writtenPage mixedBlocks) = ⟨mixedBlocks, []⟩ ∧
      Alignment.render (Extraction.run {} (Page.read 0 (writtenPage mixedBlocks)).blocks).toOption
          true
        = Alignment.render (Extraction.run {} mixedBlocks).toOption true := by
  have hwords : ∀ b ∈ mixedBlocks, Writable b := by decide +kernel
  obtain ⟨hread, hconverted⟩ := read_writtenPage 0 hwords
  exact ⟨hwords, hread, hconverted {} true⟩

end Scenarist.Reading
