/-
  Leaves — headings, paragraphs and tables of words, each up to the blank line after it.

  1. **Headings.**  A heading keeps its words whole (`chars_headingContent`).

  2. **Blank lines.**  An empty line goes on with items and ends every paragraph, whatever frames
     are open (`continuation_blank`).

  3. **Paragraphs.**  A line of words before an empty line is a paragraph of its own
     (`paragraph_words`).

  4. **Tables.**  A header row, its delimiter row and the rows below them are one table, whose rows
     end at the empty line (`paragraph_rows`).
-/
import Scenarist.Proofs.Markdown.PipeRows

namespace Scenarist.Markdown

/-- Whether there is nothing on a line. -/
def Line.IsEmpty (line : Line) : Prop := line.glyphs = []

/-- What stands on a line. -/
def Line.text (line : Line) : Text := chars line.glyphs

/-! ## Headings -/

section Headings

variable {gs : List Glyph} {level : Nat} {t : Text}

/-- Where the content of a heading stands: after its marks and a space. -/
theorem exists_of_heading (hgs : chars gs = List.replicate level '#' ++ ' ' :: t) :
    ∃ marks space body, gs = marks ++ space :: body ∧ marks.length = level
      ∧ (∀ g ∈ marks, g.char = '#') ∧ space.char = ' ' ∧ chars body = t := by
  obtain ⟨marks, tail, rfl, hmarks, htail⟩ := List.map_eq_append_iff.1 hgs
  obtain ⟨space, body, rfl, hspace, hbody⟩ := List.map_eq_cons_iff.1 htail
  refine ⟨marks, space, body, rfl, ?_, ?_, hspace, hbody⟩
  · simpa using congrArg List.length hmarks
  · intro g hg
    exact List.eq_of_mem_replicate (char_mem hmarks hg)

/-- The marks at the front give the level. -/
theorem headingLevel?_heading (hlevel : 1 ≤ level ∧ level ≤ 6)
    (hgs : chars gs = List.replicate level '#' ++ ' ' :: t) : headingLevel? gs = some level := by
  obtain ⟨marks, space, body, rfl, hlength, hmarks, hspace, -⟩ := exists_of_heading hgs
  have htaken : (marks ++ space :: body).takeWhile (fun g => g.char == '#') = marks := by
    refine Text.takeWhile_stretch (fun g hg => by simpa using hmarks g hg) fun g hg => ?_
    obtain rfl : space = g := by simpa using hg
    simp [hspace]
  have hcount : countOf '#' (marks ++ space :: body) = level := by
    rw [countOf, htaken, hlength]
  have hdrop : (marks ++ space :: body).drop level = space :: body := by
    rw [← hlength, List.drop_left]
  have hspacing : isSpacing ' ' = true := by decide
  simp [headingLevel?, hcount, hdrop, hspace, hspacing, hlevel.1, hlevel.2]

/-- The words after the marks are the content, whole. -/
theorem chars_headingContent (ht : Text.IsWords t)
    (hgs : chars gs = List.replicate level '#' ++ ' ' :: t) :
    chars (headingContent level gs) = t := by
  obtain ⟨marks, space, body, rfl, hlength, -, hspace, hbody⟩ := exists_of_heading hgs
  have hdrop : ((marks ++ space :: body).drop level).dropWhile (fun g => isSpacing g.char)
      = body := by
    obtain ⟨g, tail, rfl, hg⟩ := exists_first_letter ht hbody
    have hletter : isSpacing g.char = false := isSpacing_of_isMarker (isMarker_of_isAlpha hg)
    have hspacing : isSpacing ' ' = true := by decide
    rw [← hlength, List.drop_left]
    simp [hspace, hspacing, hletter]
  -- the last letter is neither a space nor a closing mark
  have hcontent : headingContent level (marks ++ space :: body) = body := by
    rw [headingContent, hdrop]
    obtain ⟨front, g, rfl, hg⟩ := exists_last_letter ht hbody
    have hletter : isSpacing g.char = false := isSpacing_of_isMarker (isMarker_of_isAlpha hg)
    have hhash : g.char ≠ '#' := Text.ne_of_isAlpha hg (by decide)
    simp [trimSpacingEnd, hhash, hletter]
  rw [hcontent]
  exact hbody

end Headings

/-! ## Bullets -/

/-- The mark of a bullet. -/
def dash : ItemMark := ⟨'-', none, 1⟩

/-- A dash and a space before words are the mark of an item, whose content starts after them. -/
theorem itemMark?_dash {c : Cursor} {t : Text} (ht : Text.IsWords t) (howed : c.owed = 0)
    (hc : chars c.rest = '-' :: ' ' :: t) :
    ∃ after, c.itemMark? 0 = some (dash, 2, after) ∧ chars after.rest = t ∧ after.owed = 0 := by
  obtain ⟨rest, pos, column, owed⟩ := c
  obtain rfl : owed = 0 := howed
  obtain ⟨mark, tail, rfl, hmark, htail⟩ := List.map_eq_cons_iff.1 hc
  obtain ⟨space, words, rfl, hspace, hwords⟩ := List.map_eq_cons_iff.1 htail
  obtain ⟨g, gs, rfl, hg⟩ := exists_first_letter ht hwords
  have hmarker : isMarker g.char = false := isMarker_of_isAlpha hg
  have hrule : isRule (mark :: space :: g :: gs) = false := by
    simp [isRule, hmark, ne_of_isMarker hmarker (b := '-') (by decide),
      ne_of_isMarker hmarker (b := ' ') (by decide), ne_of_isMarker hmarker (b := '\t') (by decide)]
  have hitem : itemMark? (mark :: space :: g :: gs) = some dash := by
    have hdigit : '-'.isDigit = false := by decide
    have hsign : isBulletSign '-' = true := by decide
    simp [itemMark?, chars, hmark, hspace, hdigit, hsign, dash, Option.filter]
  have hspaces : ∀ n, (⟨g :: gs, mark.stop + 1, column + 2, 0⟩ : Cursor).readSpaces n
      = (0, ⟨g :: gs, mark.stop + 1, column + 2, 0⟩) :=
    readSpaces_start rfl rfl hmarker
  refine ⟨⟨g :: gs, mark.stop + 1, column + 2, 0⟩, ?_, hwords, rfl⟩
  have hafter : (Cursor.readSpaces 1
      (Cursor.advanceBy dash.length ⟨mark :: space :: g :: gs, pos, column, 0⟩)).2
      = ⟨g :: gs, mark.stop + 1, column + 2, 0⟩ := by
    simp [dash, Cursor.advanceBy, Cursor.advance, Cursor.readSpaces, Cursor.takeColumns, hspace]
  have hsome : (⟨g :: gs, mark.stop + 1, column + 2, 0⟩ : Cursor).isBlank = false :=
    isBlankRest_start hmarker
  rw [Cursor.itemMark?]
  simp only [hrule, Bool.false_eq_true, if_false, hitem, hafter, hsome, hspaces]
  rfl

namespace Layout

variable {l : Layout} {line blank delimiter : Line} {more : List Line} {c : Cursor}
  {t : Text} {head : List Text} {body : List (List Text)}

/-! ## Blank lines -/

theorem enterFrames_atEnd (fs : List Frame) (howed : c.owed = 0) (hrest : c.rest = []) :
    (enterFrames fs c).2 = c := by
  induction fs with
  | nil => rfl
  | cons f fs ih =>
    have hspaces := readSpaces_atEnd howed hrest
    cases f with
    | quote start parts =>
      have hquote : c.quoteMark? = none := by simp [Cursor.quoteMark?, hrest]
      simp [enterFrames, Frame.enter?, hspaces, hquote]
    | item list start indent parts =>
      have hend : c.atEnd = true := by simp [Cursor.atEnd, hrest]
      simp [enterFrames, Frame.enter?, hspaces, hend, ih]

theorem enter_blank (hblank : blank.IsEmpty) : (l.enter blank).2 = Cursor.ofLine blank :=
  enterFrames_atEnd l.frames.reverse rfl hblank

/-- No paragraph goes on after an empty line. -/
theorem continuation_blank (hblank : blank.IsEmpty) :
    l.continuation (blank :: more) = ([], none) := by
  have hrest : (Cursor.ofLine blank).rest = [] := hblank
  have hnext : l.next blank more = .ends := by
    unfold next
    dsimp only
    rw [enter_blank hblank, readSpaces_atEnd rfl hrest]
    simp [Cursor.isBlank, isBlankRest, hrest]
  rw [continuation, hnext]

/-! ## Paragraphs -/

theorem dividingBars_words (ht : Text.IsWords t) {gs : List Glyph} (hgs : chars gs = t) :
    dividingBars gs = [] := by
  have hfree : NoBar gs :=
    noBar_words ht (fun _ hc => absurd hc List.not_mem_nil) (by rw [hgs, List.append_nil])
  have hnone : dividingBars [] = [] := by rw [dividingBars]
  have hall : dividingBars (gs ++ []) = dividingBars [] := dividingBars_noBar hfree
  rwa [List.append_nil, hnone] at hall

/-- A line of words before an empty line is a paragraph. -/
theorem paragraph_words (ht : Text.IsWords t) (hc : chars c.rest = t) (hblank : blank.IsEmpty) :
    l.paragraph line c (blank :: more)
      = (.part (.paragraph ⟨c.pos, line.stop⟩ ⟨c.rest, false⟩), 0) := by
  have hcolumns : l.openingColumns? c.rest (blank :: more) = none := by
    simp [openingColumns?, dividingBars_words ht hc]
  have hbracket : (c.rest.head?.any fun g => g.char == '[') = false := by
    obtain ⟨g, gs, hrest, hg⟩ := exists_first_letter ht hc
    have hne : g.char ≠ '[' := Text.ne_of_isAlpha hg (by decide)
    simp [hrest, hne]
  rw [paragraph, hcolumns]
  simp [continuation_blank hblank, joinLines, hbracket]

/-! ## Tables -/

/-- A written row belongs to the table above it: it starts nothing else, and it has a cell. -/
theorem pipeRow_goes_on {row : List Text} (hrow : row ≠ [])
    (hcells : ∀ cell ∈ row, Text.IsWords cell) (hline : line.text = pipeRow row) :
    (Cursor.ofLine line).skipSpacing.rest = line.glyphs ∧
      interrupts true true line.glyphs = false ∧ (rowCells line.glyphs).isEmpty = false := by
  obtain ⟨bar, gs, hglyphs, hbar, -⟩ := List.map_eq_cons_iff.1 hline
  have hmarker : isMarker bar.char = false := by
    rw [hbar]
    decide
  have hhash : bar.char ≠ '#' := by
    rw [hbar]
    decide
  refine ⟨?_, ?_, ?_⟩
  · simp [Cursor.skipSpacing, Cursor.ofLine, hglyphs, isSpacing_of_isMarker hmarker,
      Cursor.advanceBy]
  · rw [hglyphs]
    exact interrupts_start hmarker hhash true true
  · have hlength := (cells_pipeRow hcells hline).length_eq
    rw [List.isEmpty_eq_false_iff, ← List.length_pos_iff, hlength]
    exact List.length_pos_iff.2 hrow

section Outside

variable (hframes : l.frames = [])
include hframes

/-- Outside of all frames, nothing of a line belongs to a frame. -/
theorem enter_outside (line : Line) : l.enter line = (0, Cursor.ofLine line) := by
  rw [enter, hframes]
  rfl

theorem inside?_outside (line : Line) : l.inside? line = some (Cursor.ofLine line) := by
  rw [inside?, enter_outside hframes, hframes]
  rfl

theorem openingColumns?_pipeRow {gs : List Glyph} (hne : head ≠ [])
    (hhead : ∀ cell ∈ head, Text.IsWords cell) (hgs : chars gs = pipeRow head)
    (hdelimiter : delimiter.text = delimiterRow head.length) :
    l.openingColumns? gs (delimiter :: more) = some head.length := by
  obtain ⟨hbars, hcolumns⟩ := headerColumns_pipeRow hhead hgs
  have hescaped : endsEscaped gs = false := by
    have hbar : ∀ g ∈ gs, g.char ≠ '\\' := by
      intro g hg
      exact ne_of_mem_pipeRow hhead (char_mem hgs hg)
    have hnone : gs.reverse.takeWhile (fun g => g.char == '\\') = [] := by
      refine List.takeWhile_eq_nil_iff.2 fun hlength => ?_
      simpa using hbar _ (List.mem_reverse.1 (List.getElem_mem hlength))
    simp [endsEscaped, countOf, hnone]
  have hannounced : (Cursor.ofLine delimiter).tableColumns? = some head.length :=
    tableColumns?_delimiterRow (mt List.length_eq_zero_iff.1 hne) rfl hdelimiter
  have hnobars : (dividingBars gs).isEmpty = false := by simpa using hbars
  simp [openingColumns?, tableColumns?, hnobars, hescaped, inside?_outside hframes, hannounced,
    hcolumns]

/-- The rows of a table go on to the empty line. -/
theorem rows_pipeRows (hblank : blank.IsEmpty) {ls : List Line}
    (hbody : List.Forall₂ (fun line row => line.text = pipeRow row) ls body)
    (hrows : ∀ row ∈ body, row ≠ [] ∧ ∀ cell ∈ row, Text.IsWords cell) :
    l.rows (ls ++ blank :: more) = ls.map fun line => (line, line.glyphs) := by
  induction hbody with
  | nil =>
    have hrest : (Cursor.ofLine blank).skipSpacing.rest = [] := by
      simp [Cursor.skipSpacing, Cursor.ofLine, show blank.glyphs = [] from hblank,
        Cursor.advanceBy]
    rw [List.nil_append, rows, inside?_outside hframes]
    simp [hrest, interrupts]
  | cons hline hbody ih =>
    next line row ls body =>
    obtain ⟨hrow, hcells⟩ := hrows row (List.mem_cons_self ..)
    obtain ⟨hskipped, hgoes, hsome⟩ := pipeRow_goes_on hrow hcells hline
    rw [List.cons_append, rows, inside?_outside hframes]
    simp only [hskipped, hgoes, hsome, Bool.or_self, Bool.false_eq_true, if_false, List.map_cons]
    rw [ih fun r hr => hrows r (List.mem_cons_of_mem row hr)]

/-- A header row, its delimiter row and the rows below are one table. -/
theorem paragraph_rows (line : Line) (more : List Line) (hne : head ≠ [])
    (hhead : ∀ cell ∈ head, Text.IsWords cell) (hc : chars c.rest = pipeRow head)
    (hdelimiter : delimiter.text = delimiterRow head.length) {ls : List Line}
    (hbody : List.Forall₂ (fun line row => line.text = pipeRow row) ls body)
    (hrows : ∀ row ∈ body, row ≠ [] ∧ ∀ cell ∈ row, Text.IsWords cell) (hblank : blank.IsEmpty) :
    ∃ span, l.paragraph line c (delimiter :: (ls ++ blank :: more))
      = (.part (.table span (rowOf head.length line c.rest)
          (ls.map fun line => rowOf head.length line line.glyphs)), 1 + ls.length) := by
  have hcolumns : l.openingColumns? c.rest (delimiter :: (ls ++ blank :: more))
      = some head.length := openingColumns?_pipeRow hframes hne hhead hc hdelimiter
  have hbelow : l.rows (ls ++ blank :: more) = ls.map fun line => (line, line.glyphs) :=
    rows_pipeRows hframes hblank hbody hrows
  rw [paragraph, hcolumns]
  simp only [List.drop_succ_cons, List.drop_zero, hbelow, List.length_map, List.map_map,
    Function.comp_def]
  exact ⟨_, rfl⟩

end Outside

end Layout

end Scenarist.Markdown
