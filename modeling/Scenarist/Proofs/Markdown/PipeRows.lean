/-
  Pipe rows — the rows of a table, written with a bar at both ends, are cut into their cells again.

  1. **Rows.**  `pipeRow` sets every cell off by spaces and closes it with a bar; `delimiterRow` has
     three dashes for each column.  Cells are words, so no bar and no backslash stands inside one.

  2. **Cells.**  A row is read cell by cell, each with the space behind it (`cells_pipeRow`).

  3. **Columns.**  A header row has as many dividing bars as it needs for its cells
     (`headerColumns_pipeRow`), and the delimiter row announces as many columns
     (`tableColumns?_delimiterRow`).
-/
import Mathlib.Data.List.Forall2
import Scenarist.Proofs.Markdown.LineStarts

namespace Scenarist.Markdown

variable {cells : List Text} {cell : Text} {gs w rest : List Glyph} {bar : Glyph}

/-! ## Rows -/

/-- A cell between spaces, and the bar that closes it. -/
def barred (cell : Text) : Text := ' ' :: cell ++ [' ', '|']

/-- The row of a table that has the given cells. -/
def pipeRow (cells : List Text) : Text := '|' :: cells.flatMap barred

/-- The row that tells a table's header from its body. -/
def delimiterRow (columns : Nat) : Text :=
  '|' :: (List.replicate columns ['-', '-', '-', '|']).flatten

/-- No row of words escapes anything. -/
theorem ne_of_mem_pipeRow (hcells : ∀ c ∈ cells, Text.IsWords c) {d : Char}
    (hd : d ∈ pipeRow cells) : d ≠ '\\' := by
  rcases List.mem_cons.1 hd with rfl | hd
  · decide
  · obtain ⟨cell, hcell, hd⟩ := List.mem_flatMap.1 hd
    rcases List.mem_append.1 hd with hd | hd
    · rcases List.mem_cons.1 hd with rfl | hd
      · decide
      · exact (hcells cell hcell).ne_of_mem hd (by decide) (by decide)
    · rintro rfl
      revert hd
      decide

/-- Nothing that could end a cell stands among the glyphs. -/
def NoBar (gs : List Glyph) : Prop := ∀ g ∈ gs, g.char ≠ '|' ∧ g.char ≠ '\\'

/-- Words are in one cell, and so are spaces behind them. -/
theorem noBar_words {t b : Text} (ht : Text.IsWords t) (hb : ∀ c ∈ b, c = ' ')
    (hgs : chars gs = t ++ b) : NoBar gs := by
  intro g hg
  rcases List.mem_append.1 (char_mem hgs hg) with hmem | hmem
  · exact ⟨ht.ne_of_mem hmem (by decide) (by decide), ht.ne_of_mem hmem (by decide) (by decide)⟩
  · rw [hb _ hmem]
    decide

theorem noBar_cell (hcell : Text.IsWords cell) (hw : chars w = cell ++ [' ']) : NoBar w :=
  noBar_words hcell (fun _ hc => List.mem_singleton.1 hc) hw

/-- Where a cell stands in a row: a space, the cell with the space behind it, and a bar. -/
theorem exists_of_barred {t : Text} (h : chars gs = barred cell ++ t) :
    ∃ space w bar more, gs = space :: (w ++ bar :: more) ∧ space.char = ' '
      ∧ chars w = cell ++ [' '] ∧ bar.char = '|' ∧ chars more = t := by
  have hsplit : chars gs = ' ' :: ((cell ++ [' ']) ++ '|' :: t) := by simpa [barred] using h
  obtain ⟨space, tail, rfl, hspace, htail⟩ := List.map_eq_cons_iff.1 hsplit
  obtain ⟨w, closed, rfl, hw, hclosed⟩ := List.map_eq_append_iff.1 htail
  obtain ⟨bar, more, rfl, hbar, hmore⟩ := List.map_eq_cons_iff.1 hclosed
  exact ⟨space, w, bar, more, rfl, hspace, hw, hbar, hmore⟩

/-! ## Cells -/

/-- A cell without escapes goes up to the next bar. -/
theorem cutCell_noBar (hw : NoBar w) (hbar : bar.char = '|') :
    cutCell 0 (w ++ bar :: rest) = (w, bar :: rest) := by
  induction w with
  | nil => simp [cutCell, hbar]
  | cons g w ih =>
    obtain ⟨hg, hslash⟩ := hw g (List.mem_cons_self ..)
    have hescape : escapeLength (g :: (w ++ bar :: rest)) = 0 := by
      cases hmore : w ++ bar :: rest with
      | nil => rfl
      | cons k more => simp [escapeLength, hslash]
    have hstep := ih fun k hk => hw k (List.mem_cons_of_mem g hk)
    rw [List.cons_append, cutCell, if_neg hg, hescape]
    simp [hstep]

theorem cellsAfterBar_nil : cellsAfterBar [] = [] := by
  rw [cellsAfterBar]
  rfl

theorem cellsAfterBar_cons {g : Glyph} (h : gs.dropWhile (fun g => isSpacing g.char) = g :: rest) :
    cellsAfterBar gs
      = (cutCell 0 (g :: rest)).1 :: cellsAfterBar ((cutCell 0 (g :: rest)).2.drop 1) := by
  rw [cellsAfterBar]
  split
  · next hnil =>
    rw [h] at hnil
    cases hnil
  · next k more hk =>
    rw [h] at hk
    obtain ⟨rfl, rfl⟩ := List.cons.inj hk
    rfl

/-- After a bar, cell by cell is read, each with the space behind it. -/
theorem cellsAfterBar_barred (hcells : ∀ c ∈ cells, Text.IsWords c) :
    ∀ gs : List Glyph, chars gs = cells.flatMap barred →
      List.Forall₂ (fun w c => chars w = c ++ [' ']) (cellsAfterBar gs) cells := by
  induction cells with
  | nil =>
    intro gs hgs
    obtain rfl : gs = [] := List.map_eq_nil_iff.1 hgs
    rw [cellsAfterBar_nil]
    exact List.Forall₂.nil
  | cons cell cells ih =>
    intro gs hgs
    have hcell := hcells cell (List.mem_cons_self ..)
    obtain ⟨space, w, bar, more, rfl, hspace, hw, hbar, hmore⟩ := exists_of_barred hgs
    -- the cell starts with a letter, so the space before it is all that is passed over
    obtain ⟨first, tail, rfl, hfirst⟩ := hcell.exists_cons
    obtain ⟨g, w, rfl, hg, -⟩ := List.map_eq_cons_iff.1 hw
    have hdrop : (space :: (g :: w ++ bar :: more)).dropWhile (fun g => isSpacing g.char)
        = g :: (w ++ bar :: more) := by
      have hletter : isSpacing g.char = false :=
        isSpacing_of_isMarker (isMarker_of_isAlpha (hg ▸ hfirst))
      have hblank : isSpacing ' ' = true := by decide
      simp [hspace, hblank, hletter]
    have hcut : cutCell 0 (g :: (w ++ bar :: more)) = (g :: w, bar :: more) :=
      cutCell_noBar (noBar_cell hcell hw) hbar
    rw [cellsAfterBar_cons hdrop, hcut]
    exact List.Forall₂.cons hw (ih (fun c hc => hcells c (List.mem_cons_of_mem _ hc)) more hmore)

/-- A row is cut into its cells, each with the space behind it. -/
theorem cells_pipeRow (hcells : ∀ c ∈ cells, Text.IsWords c) (hgs : chars gs = pipeRow cells) :
    List.Forall₂ (fun w c => chars w = c ++ [' ']) (rowCells gs) cells := by
  obtain ⟨bar, more, rfl, hbar, hmore⟩ := List.map_eq_cons_iff.1 hgs
  have hrow : rowCells (bar :: more) = cellsAfterBar more := by simp [rowCells, hbar]
  rw [hrow]
  exact cellsAfterBar_barred hcells more hmore

/-! ## Columns -/

theorem dividingBars_noBar (hw : NoBar w) : dividingBars (w ++ rest) = dividingBars rest := by
  induction w with
  | nil => rfl
  | cons g w ih =>
    obtain ⟨hg, hslash⟩ := hw g (List.mem_cons_self ..)
    rw [List.cons_append, dividingBars]
    simp only [hslash, hg, decide_false, Bool.false_and, Bool.false_eq_true, if_false]
    exact ih fun k hk => hw k (List.mem_cons_of_mem g hk)

theorem dividingBars_bar (hbar : bar.char = '|') :
    dividingBars (bar :: rest) = rest :: dividingBars rest := by
  rw [dividingBars]
  simp [hbar]

/-- After the first bar there is one bar for each cell, and nothing behind the last. -/
theorem dividingBars_barred (hcells : ∀ c ∈ cells, Text.IsWords c) :
    ∀ gs : List Glyph, chars gs = cells.flatMap barred →
      (dividingBars gs).length = cells.length ∧ (gs :: dividingBars gs).getLast? = some [] := by
  induction cells with
  | nil =>
    intro gs hgs
    obtain rfl : gs = [] := List.map_eq_nil_iff.1 hgs
    simp [dividingBars]
  | cons cell cells ih =>
    intro gs hgs
    have hcell := hcells cell (List.mem_cons_self ..)
    obtain ⟨space, w, bar, more, rfl, hspace, hw, hbar, hmore⟩ := exists_of_barred hgs
    have hfront : NoBar (space :: w) := by
      intro g hg
      rcases List.mem_cons.1 hg with rfl | hg
      · rw [hspace]
        decide
      · exact noBar_cell hcell hw g hg
    have hbars : dividingBars (space :: (w ++ bar :: more)) = more :: dividingBars more := by
      rw [← List.cons_append, dividingBars_noBar hfront, dividingBars_bar hbar]
    obtain ⟨hlength, hlast⟩ := ih (fun c hc => hcells c (List.mem_cons_of_mem _ hc)) more hmore
    rw [hbars]
    constructor
    · rw [List.length_cons, List.length_cons, hlength]
    · rw [List.getLast?_cons_cons]
      exact hlast

/-- A header row has as many columns as cells. -/
theorem headerColumns_pipeRow (hcells : ∀ c ∈ cells, Text.IsWords c)
    (hgs : chars gs = pipeRow cells) :
    dividingBars gs ≠ [] ∧ headerColumns (dividingBars gs) gs = cells.length := by
  obtain ⟨bar, more, rfl, hbar, hmore⟩ := List.map_eq_cons_iff.1 hgs
  obtain ⟨hlength, hlast⟩ := dividingBars_barred hcells more hmore
  have hspacing : isSpacing '|' = false := by decide
  rw [dividingBars_bar hbar]
  refine ⟨List.cons_ne_nil _ _, ?_⟩
  simp [headerColumns, hbar, hspacing, hlast, hlength, isBlankRest]

theorem delimiterColumns?_dashes (n : Nat) :
    delimiterColumns? false false (List.replicate n ['-', '-', '-', '|']).flatten = some n := by
  induction n with
  | zero => rfl
  | succ n ih =>
    have hstep : (List.replicate (n + 1) ['-', '-', '-', '|']).flatten
        = '-' :: '-' :: '-' :: '|' :: (List.replicate n ['-', '-', '-', '|']).flatten := rfl
    rw [hstep]
    simp [delimiterColumns?, ih]

/-- The delimiter row announces its columns, if there are any. -/
theorem tableColumns?_delimiterRow {c : Cursor} {n : Nat} (hn : n ≠ 0) (howed : c.owed = 0)
    (hc : chars c.rest = delimiterRow n) : c.tableColumns? = some n := by
  obtain ⟨bar, more, hrest, hbar, hmore⟩ := List.map_eq_cons_iff.1 hc
  have hspaces : c.readSpaces 4 = (0, c) :=
    readSpaces_start howed hrest (by rw [hbar]; decide) 4
  rw [Cursor.tableColumns?, hspaces]
  dsimp only
  rw [hc, delimiterRow]
  simp [delimiterColumns?_dashes, hn]

end Scenarist.Markdown
