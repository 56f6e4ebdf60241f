/-
  Column layout — where the cells of aligned rows stand, and how wide their columns are.

  1. **Widths** — a column is as wide as its longest cell (`isGreatest_width`): it holds every cell of
     the column, and one of them fills it.

  2. **Places** — `CellAt` says where a cell stands in a line: behind so many bars, with a space on both
     sides once it is filled up.  The cells of a row that is written in columns are at places that
     depend on the columns before them only (`cellAt_alignedRow`).

  3. **Runs** — all rows of a run are written in the same columns behind the same indentation
     (`run_columns`).
-/
import Mathlib.Order.Bounds.Basic
import Scenarist.Proofs.Feature.Columns

namespace Scenarist.Alignment

variable {c : Char} {cell line source : Text} {indent : Text} {row : List Text}
  {rows : List (List Text)} {ws : List Nat} {run ls before after : List Text} {i k w : Nat}

/-! ## Widths -/

theorem getElem?_widen {ws ns : List Nat} (h : (widen ws ns)[k]? = some w) :
    ws[k]? = some w ∨ ns[k]? = some w := by
  induction ws generalizing ns k with
  | nil =>
    rw [widen] at h
    exact .inr h
  | cons v ws ih =>
    cases ns with
    | nil =>
      rw [widen] at h
      · exact .inl h
      · exact List.cons_ne_nil v ws
    | cons n ns =>
      rw [widen] at h
      cases k with
      | zero =>
        obtain rfl : max v n = w := by simpa using h
        rcases Nat.le_total v n with hle | hle
        · right
          simp [Nat.max_eq_right hle]
        · left
          simp [Nat.max_eq_left hle]
      | succ k => exact ih h

/-- The width of a column is the length of one of its cells. -/
theorem exists_cell_of_width (h : (widths rows)[k]? = some w) :
    ∃ row ∈ rows, ∃ cell, row[k]? = some cell ∧ cell.length = w := by
  -- a width comes from the rows so far, or from the next one
  have hfold : ∀ (rows : List (List Text)) (ws : List Nat),
      (rows.foldl (fun ws row => widen ws (row.map List.length)) ws)[k]? = some w →
      ws[k]? = some w ∨ ∃ row ∈ rows, ∃ cell, row[k]? = some cell ∧ cell.length = w := by
    intro rows
    induction rows with
    | nil =>
      intro ws h
      exact .inl h
    | cons first rows ih =>
      intro ws h
      rcases ih _ h with h | ⟨row, hrow, hcell⟩
      · rcases getElem?_widen h with h | h
        · exact .inl h
        · rw [List.getElem?_map] at h
          obtain ⟨cell, hcell, hlen⟩ := Option.map_eq_some_iff.1 h
          exact .inr ⟨first, List.mem_cons_self .., cell, hcell, hlen⟩
      · exact .inr ⟨row, List.mem_cons_of_mem first hrow, hcell⟩
  rcases hfold rows [] h with h | h
  · cases h
  · exact h

/-- A cell is no longer than its column is wide. -/
theorem Fits.le_width {ns : List Nat} {n : Nat} (h : Fits ns ws) (hn : ns[k]? = some n) :
    ∃ w, ws[k]? = some w ∧ n ≤ w := by
  induction ns generalizing ws k with
  | nil => cases hn
  | cons m ns ih =>
    cases ws with
    | nil => cases h
    | cons w ws =>
      obtain ⟨hm, hrest⟩ := h
      cases k with
      | zero =>
        obtain rfl : m = n := by simpa using hn
        exact ⟨w, rfl, hm⟩
      | succ k =>
        obtain ⟨v, hv, hle⟩ := ih hrest hn
        exact ⟨v, hv, hle⟩

theorem exists_width_of_cell (hrow : row ∈ rows) (hcell : row[k]? = some cell) :
    ∃ w, (widths rows)[k]? = some w ∧ cell.length ≤ w := by
  refine (fits_widths hrow).le_width ?_
  rw [List.getElem?_map, hcell, Option.map_some]

/-- The lengths of the cells in a column of a run. -/
def columnLengths (run : List Text) (k : Nat) : Set Nat :=
  {n | ∃ source ∈ run, ∃ cell, (cells source)[k]? = some cell ∧ cell.length = n}

/-- The width of a column of a run, if there is that column. -/
def columnWidth (run : List Text) (k : Nat) : Nat := (widths (run.map cells)).getD k 0

theorem columnWidth_eq (h : (widths (run.map cells))[k]? = some w) : columnWidth run k = w := by
  rw [columnWidth, List.getD_eq_getElem?_getD, h, Option.getD_some]

/-- **A column is as wide as its longest cell.** -/
theorem isGreatest_width (hsource : source ∈ run) (hk : k < (cells source).length) :
    IsGreatest (columnLengths run k) (columnWidth run k) := by
  have hcell : (cells source)[k]? = some (cells source)[k] := List.getElem?_eq_getElem hk
  obtain ⟨w, hw, -⟩ := exists_width_of_cell (List.mem_map_of_mem hsource) hcell
  rw [columnWidth_eq hw]
  constructor
  · obtain ⟨row, hrow, cell, hcell, hlen⟩ := exists_cell_of_width hw
    obtain ⟨longest, hlongest, rfl⟩ := List.mem_map.1 hrow
    exact ⟨longest, hlongest, cell, hcell, hlen⟩
  · rintro n ⟨other, hother, cell, hcell, rfl⟩
    obtain ⟨v, hv, hle⟩ := exists_width_of_cell (List.mem_map_of_mem hother) hcell
    rw [hw] at hv
    obtain rfl : w = v := Option.some.inj hv
    exact hle

/-! ## Places -/

/-- How far columns of some widths reach: each with a bar in front and a space on both sides. -/
def reach : List Nat → Nat
  | [] => 0
  | w :: ws => w + 3 + reach ws

/-- Whether a cell stands at a place in a line, as the cell behind so many cells: it comes after a bar
and a space, is filled up with spaces to a width, and a space and a bar come after it. -/
def CellAt (line : Text) (k place width : Nat) (cell : Text) : Prop :=
  ∃ front back, line = front ++ "| ".toList ++ cell ++ List.replicate (width - cell.length) ' '
      ++ " |".toList ++ back ∧
    front.count '|' = k ∧ front.length + 2 = place ∧ cell.length ≤ width

/-- A cell with its bar in front. -/
def opened (x : Text) : Text := '|' :: spaced x

/-- The bars of cells may be counted in front of them or behind them. -/
theorem bar_cons_flatMap (xs : List Text) :
    '|' :: (xs.flatMap fun x => spaced x ++ ['|']) = xs.flatMap opened ++ ['|'] := by
  induction xs with
  | nil => rfl
  | cons x xs ih =>
    rw [List.flatMap_cons, List.flatMap_cons, List.append_assoc, List.append_assoc, List.singleton_append,
      ih]
    rfl

theorem row_eq_flatMap_opened {xs : List Text} (hne : xs ≠ []) :
    Feature.row xs = xs.flatMap opened ++ ['|'] := by
  rw [row_eq_flatMap hne, bar_cons_flatMap]

theorem length_flatMap_opened (xs : List Text) :
    (xs.flatMap opened).length = reach (xs.map List.length) := by
  induction xs with
  | nil => rfl
  | cons x xs ih =>
    have hx : (opened x).length = x.length + 3 := by
      rw [opened, List.length_cons, length_spaced]
    rw [List.flatMap_cons, List.length_append, ih, hx]
    rfl

theorem count_flatMap_opened {xs : List Text} (hbar : ∀ x ∈ xs, '|' ∉ x) :
    (xs.flatMap opened).count '|' = xs.length := by
  induction xs with
  | nil => rfl
  | cons x xs ih =>
    have hx : (opened x).count '|' = 1 := by
      have hnone : (spaced x).count '|' = 0 := by
        refine List.count_eq_zero.2 ?_
        simpa [spaced] using hbar x (List.mem_cons_self ..)
      rw [opened, List.count_cons_self, hnone]
    have hrest := ih fun y hy => hbar y (List.mem_cons_of_mem x hy)
    rw [List.flatMap_cons, List.count_append, hx, hrest, List.length_cons, Nat.add_comm]

/-- A row in front of one of its cells, and behind it. -/
theorem row_split {xs : List Text} {x : Text} (hk : xs[k]? = some x) :
    ∃ back, Feature.row xs = (xs.take k).flatMap opened ++ opened x ++ '|' :: back := by
  obtain ⟨hlt, rfl⟩ := List.getElem?_eq_some_iff.1 hk
  have hne : xs ≠ [] := by
    rintro rfl
    exact absurd hlt (Nat.not_lt_zero k)
  have hxs : xs = xs.take k ++ xs[k] :: xs.drop (k + 1) := by
    rw [List.getElem_cons_drop, List.take_append_drop]
  have hrow : Feature.row xs
      = (xs.take k).flatMap opened ++ opened xs[k] ++ ((xs.drop (k + 1)).flatMap opened ++ ['|']) := by
    rw [row_eq_flatMap_opened hne]
    conv_lhs => rw [hxs]
    rw [List.flatMap_append, List.flatMap_cons, List.append_assoc, List.append_assoc, List.append_assoc]
  rw [← bar_cons_flatMap] at hrow
  exact ⟨_, hrow⟩

/-- Where a column starts: behind the indentation, the columns before it, a bar and a space. -/
def startOf (indent : Text) (ws : List Nat) (k : Nat) : Nat := indent.length + reach (ws.take k) + 2

/-- **The cells of a written row** stand where their columns start. -/
theorem cellAt_alignedRow (hindent : '|' ∉ indent) (hbar : ∀ x ∈ row, '|' ∉ x)
    (hfits : Fits (row.map List.length) ws) (hcell : row[k]? = some cell) (hw : ws[k]? = some w) :
    CellAt (alignedRow indent ws row) k (startOf indent ws k) w cell := by
  let filled := List.zipWith padCell row ws
  have hfilled : filled[k]? = some (padCell cell w) := by
    show (List.zipWith padCell row ws)[k]? = _
    rw [List.getElem?_zipWith, hcell, hw]
  have hk : k < row.length := (List.getElem?_eq_some_iff.1 hcell).1
  have hkf : k < filled.length := (List.getElem?_eq_some_iff.1 hfilled).1
  obtain ⟨back, hrow⟩ := row_split hfilled
  refine ⟨indent ++ (filled.take k).flatMap opened, back, ?_, ?_, ?_, ?_⟩
  · show indent ++ Feature.row filled = _
    rw [hrow, opened, spaced, padCell]
    simp
  · have hnone : indent.count '|' = 0 := List.count_eq_zero.2 hindent
    have hcount : ((filled.take k).flatMap opened).count '|' = (filled.take k).length :=
      count_flatMap_opened fun p hp =>
        bar_not_mem_zipWith_padCell hbar p (List.mem_of_mem_take hp)
    rw [List.count_append, hnone, hcount, List.length_take]
    omega
  · have hlengths : (filled.take k).map List.length = ws.take k := by
      rw [List.map_take, map_length_zipWith_padCell hfits, List.take_take]
      congr 1
      omega
    rw [List.length_append, length_flatMap_opened, hlengths, startOf]
  · obtain ⟨v, hv, hle⟩ := hfits.le_width (k := k) (n := cell.length) (by simp [hcell])
    rw [hw] at hv
    obtain rfl : w = v := Option.some.inj hv
    exact hle

/-- A written row is as long as its columns reach. -/
theorem length_alignedRow (hne : row ≠ []) (hfits : Fits (row.map List.length) ws) :
    (alignedRow indent ws row).length + 1 = startOf indent ws row.length := by
  have hlengths := map_length_zipWith_padCell hfits
  have hfilled := zipWith_padCell_ne_nil hne hfits
  rw [alignedRow, row_eq_flatMap_opened hfilled, List.length_append, List.length_append,
    length_flatMap_opened, hlengths, startOf, List.length_singleton]
  omega

/-! ## Runs -/

/-- Where a column of a run starts. -/
def columnStart (run : List Text) (k : Nat) : Nat :=
  startOf (indentation (run.headD [])) (widths (run.map cells)) k

/-- The line of a row among the aligned lines. -/
theorem getElem?_alignLines_run (hrun : WholeRun before run after) (hi : run[i]? = some source) :
    (alignLines (before ++ run ++ after))[before.length + i]?
      = some (alignedRow (indentation (run.headD [])) (widths (run.map cells)) (cells source)) := by
  have hlt : i < run.length := (List.getElem?_eq_some_iff.1 hi).1
  have hbefore : before.length = (alignLines before).length := (length_alignLines before).symm
  rw [hrun.alignLines_eq, List.append_assoc, hbefore,
    List.getElem?_append_right (Nat.le_add_right _ i), Nat.add_sub_cancel_left,
    List.getElem?_append_left (by rw [length_alignedRun]; exact hlt), alignedRun]
  simp only [List.getElem?_map, hi, Option.map_some]

/-- **The columns of a run.**  Let some lines of a text be a maximal run of rows.  After aligning, the
row in each of these lines has the indentation of the first, and each of its cells stands where the
column of the cell starts: that place is the same for all rows of the run.  A row is as long as its
columns reach, so rows with equally many cells are equally long.  And a column is as wide as its longest
cell, no wider. -/
theorem run_columns {t : Text} (hlines : Text.lines t = before ++ run ++ after)
    (hrun : WholeRun before run after) :
    (∀ i source, run[i]? = some source →
      ∃ line, (Text.lines (align t))[before.length + i]? = some line ∧
        indentation line = indentation (run.headD []) ∧
        (∀ k cell, (cells source)[k]? = some cell →
          CellAt line k (columnStart run k) (columnWidth run k) cell) ∧
        line.length + 1 = columnStart run (cells source).length) ∧
    (∀ source ∈ run, ∀ k, k < (cells source).length →
      IsGreatest (columnLengths run k) (columnWidth run k)) := by
  refine ⟨fun i source hi => ?_, fun source hsource k hk => isGreatest_width hsource hk⟩
  have hmem : cells source ∈ run.map cells := List.mem_map_of_mem (List.mem_of_getElem? hi)
  have hfits := fits_widths hmem
  have hblank : ∀ c ∈ indentation (run.headD []), Text.isBlank c = true :=
    fun _ hc => isBlank_of_mem_indentation hc
  let line := alignedRow (indentation (run.headD [])) (widths (run.map cells)) (cells source)
  refine ⟨line, ?_, indentation_row hblank _, fun k cell hcell => ?_, ?_⟩
  · rw [lines_align, hlines]
    exact getElem?_alignLines_run hrun hi
  · have hindent : '|' ∉ indentation (run.headD []) := by
      intro hc
      exact absurd (hblank _ hc) (by decide)
    obtain ⟨w, hw, -⟩ := exists_width_of_cell hmem hcell
    rw [columnWidth_eq hw]
    exact cellAt_alignedRow hindent (fun x hx => bar_not_mem_cell hx) hfits hcell hw
  · exact length_alignedRow (cells_ne_nil source) hfits

/-- Two rows between other lines, the second with fewer cells and another indentation. -/
def raggedRun : List Text := ["  | é | bbb |".toList, "\t|ccc|".toList]

/-- The second column starts at the same place as if all rows had one, and the longest cell of the first
column is the one of the shorter row. -/
theorem run_columns_raggedRun :
    Text.lines "x\n  | é | bbb |\n\t|ccc|\ny |".toList
      = ["x".toList] ++ raggedRun ++ ["y |".toList] ∧
    WholeRun ["x".toList] raggedRun ["y |".toList] ∧
    (∃ line, (Text.lines (align "x\n  | é | bbb |\n\t|ccc|\ny |".toList))[1]? = some line ∧
      indentation line = "  ".toList ∧ CellAt line 0 4 3 "é".toList ∧ CellAt line 1 10 3 "bbb".toList ∧
      line.length = 15) ∧
    (∃ line, (Text.lines (align "x\n  | é | bbb |\n\t|ccc|\ny |".toList))[2]? = some line ∧
      indentation line = "  ".toList ∧ CellAt line 0 4 3 "ccc".toList ∧ line.length = 9) ∧
    IsGreatest (columnLengths raggedRun 0) 3 := by
  have hlines : Text.lines "x\n  | é | bbb |\n\t|ccc|\ny |".toList
      = ["x".toList] ++ raggedRun ++ ["y |".toList] := by decide +kernel
  have hrun : WholeRun ["x".toList] raggedRun ["y |".toList] :=
    ⟨by decide, by decide +kernel, by decide +kernel, by unfold Stops; decide +kernel⟩
  obtain ⟨hrows, hwidths⟩ := run_columns hlines hrun
  refine ⟨hlines, hrun, ?_, ?_, hwidths _ (List.mem_cons_self ..) 0 (by decide +kernel)⟩
  · obtain ⟨line, hline, hindent, hcells, hlength⟩ := hrows 0 _ rfl
    exact ⟨line, hline, hindent, hcells 0 _ (by decide +kernel), hcells 1 _ (by decide +kernel),
      Nat.succ.inj hlength⟩
  · obtain ⟨line, hline, hindent, hcells, hlength⟩ := hrows 1 _ rfl
    exact ⟨line, hline, hindent, hcells 0 _ (by decide +kernel), Nat.succ.inj hlength⟩

end Scenarist.Alignment
