/-
  Table cells — a table told cell by cell, and when two tables are the same.

  1. **Cells.**  A row has a cell in every column: its own, trimmed, or an empty one where it has
     ended (`cellAt`).  The width is the length of the longest row, and rows without a cell do not
     count for it.

  2. **A table of rows** has a row for each that has a cell, with its cells up to the width
     (`rows_ofRows`).  This says nothing of how short rows are filled up.

  3. **The same table.**  So tables are the same just when their rows are equally wide and agree
     cell by cell (`ofRows_eq_iff`).  Two inputs may differ in blanks at the ends of cells, in empty
     cells at the end of a row that is not the longest, and in rows without a cell.
-/
import Mathlib.Data.List.Forall2
import Scenarist.Outline.Table

namespace Scenarist.Table

variable {rows rows' : List (List Text)} {row : List Text}

/-! ## Cells -/

/-- The rows that have a cell. -/
def withCells (rows : List (List Text)) : List (List Text) := rows.filter fun row => !row.isEmpty

/-- The trimmed cell of a row in some column, empty where the row has ended. -/
def cellAt (row : List Text) (column : Nat) : Text := Text.trim (row[column]?.getD [])

theorem mem_withCells : row ∈ withCells rows ↔ row ∈ rows ∧ row ≠ [] := by
  simp [withCells]

theorem cellAt_of_length_le {column : Nat} (h : row.length ≤ column) : cellAt row column = [] := by
  rw [cellAt, List.getElem?_eq_none h]
  rfl

/-- A row that is trimmed and filled up has its cells up to the width. -/
theorem pad_trimmed {n : Nat} (h : row.length ≤ n) :
    pad n (row.map Text.trim) = (List.range n).map (cellAt row) := by
  refine List.ext_getElem ?_ fun column hpad hrange => ?_
  · rw [length_pad (by rwa [List.length_map]), List.length_map, List.length_range]
  · rw [List.getElem_map, List.getElem_range]
    by_cases hcolumn : column < row.length
    · have hmap : column < (row.map Text.trim).length := by rwa [List.length_map]
      simp only [pad]
      rw [List.getElem_append_left hmap, List.getElem_map, cellAt,
        List.getElem?_eq_getElem hcolumn]
      rfl
    · have hended : row.length ≤ column := Nat.le_of_not_lt hcolumn
      simp only [pad]
      rw [List.getElem_append_right (by rwa [List.length_map]), List.getElem_replicate,
        cellAt_of_length_le hended]

/-! ## The width -/

theorem exists_length_eq_width (h : rows ≠ []) : ∃ row ∈ rows, row.length = width rows := by
  induction rows with
  | nil => exact absurd rfl h
  | cons r rows ih =>
    have hwidth : width (r :: rows) = max r.length (width rows) := rfl
    by_cases hrows : rows = []
    · refine ⟨r, List.mem_cons_self .., ?_⟩
      rw [hwidth, hrows]
      exact (Nat.max_eq_left (Nat.zero_le _)).symm
    · obtain ⟨row, hrow, hlength⟩ := ih hrows
      rcases Nat.le_total r.length (width rows) with hle | hle
      · refine ⟨row, List.mem_cons_of_mem r hrow, ?_⟩
        rw [hwidth, Nat.max_eq_right hle, hlength]
      · refine ⟨r, List.mem_cons_self .., ?_⟩
        rw [hwidth, Nat.max_eq_left hle]

/-- Rows without a cell are not the longest, unless all are. -/
theorem width_trimmedRows (rows : List (List Text)) : width (trimmedRows rows) = width rows := by
  induction rows with
  | nil => rfl
  | cons r rows ih =>
    cases r with
    | nil => exact ih.trans (Nat.zero_max _).symm
    | cons cell cells =>
      show max ((cell :: cells).map Text.trim).length (width (trimmedRows rows)) = _
      rw [ih, List.length_map]
      rfl

/-! ## Tables of rows -/

/-- A table of rows has the cells, up to the width, of the rows that have any. -/
theorem rows_ofRows (rows : List (List Text)) :
    (ofRows rows).rows
      = (withCells rows).map fun row => (List.range (width rows)).map (cellAt row) := by
  show (trimmedRows rows).map (pad (width (trimmedRows rows))) = _
  rw [width_trimmedRows, trimmedRows, List.map_map]
  refine List.map_congr_left fun row hrow => pad_trimmed ?_
  exact length_le_width (mem_withCells.1 hrow).1

theorem length_of_mem_rows_ofRows (h : row ∈ (ofRows rows).rows) : row.length = width rows :=
  (length_of_mem_normalRows h).trans (width_trimmedRows rows)

theorem isEmpty_ofRows_iff : (ofRows rows).isEmpty = true ↔ ∀ row ∈ rows, row = [] := by
  rw [isEmpty, List.isEmpty_iff, rows_ofRows, List.map_eq_nil_iff, withCells,
    List.filter_eq_nil_iff]
  simp

theorem eq_of_rows {t u : Table} (h : t.rows = u.rows) : t = u := by
  cases t
  cases u
  cases h
  rfl

/-- A table is the table of its own rows. -/
theorem ofRows_rows (t : Table) : ofRows t.rows = t := eq_of_rows t.normal

/-- The width of a table is that of the rows it was built from. -/
theorem width_rows_ofRows (rows : List (List Text)) : width (ofRows rows).rows = width rows := by
  have hle : width (ofRows rows).rows ≤ width rows := by
    refine width_le fun row hrow => Nat.le_of_eq ?_
    exact length_of_mem_rows_ofRows hrow
  refine Nat.le_antisymm hle (width_le fun row hrow => ?_)
  by_cases hcell : row = []
  · rw [hcell]
    exact Nat.zero_le _
  · -- a row with a cell has a row in the table, as wide as all are
    have hkept : (List.range (width rows)).map (cellAt row) ∈ (ofRows rows).rows := by
      rw [rows_ofRows]
      exact List.mem_map_of_mem (mem_withCells.2 ⟨hrow, hcell⟩)
    have hwide := length_le_width hkept
    rw [List.length_map, List.length_range] at hwide
    exact Nat.le_trans (length_le_width hrow) hwide

/-! ## The same table -/

/-- Whether two rows have the same cell in every column. -/
def SameCells (row row' : List Text) : Prop := ∀ column, cellAt row column = cellAt row' column

/-- Cells up to a width decide, if neither row goes beyond it. -/
theorem map_cellAt_eq_iff {row' : List Text} {n : Nat} (h : row.length ≤ n) (h' : row'.length ≤ n) :
    (List.range n).map (cellAt row) = (List.range n).map (cellAt row') ↔ SameCells row row' := by
  constructor
  · intro hcells column
    by_cases hcolumn : column < n
    · exact List.map_inj_left.1 hcells column (List.mem_range.2 hcolumn)
    · rw [cellAt_of_length_le (by omega), cellAt_of_length_le (by omega)]
  · intro hcells
    exact List.map_congr_left fun column _ => hcells column

theorem map_cells_eq_iff {n : Nat} (h : ∀ row ∈ rows, row.length ≤ n)
    (h' : ∀ row ∈ rows', row.length ≤ n) :
    (rows.map fun row => (List.range n).map (cellAt row))
        = rows'.map (fun row => (List.range n).map (cellAt row)) ↔
      List.Forall₂ SameCells rows rows' := by
  induction rows generalizing rows' with
  | nil => cases rows' <;> simp
  | cons row rows ih =>
    cases rows' with
    | nil => simp
    | cons row' rows' =>
      obtain ⟨hrow, hrows⟩ := List.forall_mem_cons.1 h
      obtain ⟨hrow', hrows'⟩ := List.forall_mem_cons.1 h'
      rw [List.map_cons, List.map_cons, List.cons.injEq, List.forall₂_cons,
        map_cellAt_eq_iff hrow hrow', ih hrows hrows']

/-- **The same table** comes from rows that are equally wide and agree cell by cell. -/
theorem ofRows_eq_iff : ofRows rows = ofRows rows' ↔
    width rows = width rows' ∧ List.Forall₂ SameCells (withCells rows) (withCells rows') := by
  have hle : ∀ rows : List (List Text), ∀ row ∈ withCells rows, row.length ≤ width rows :=
    fun rows row hrow => length_le_width (mem_withCells.1 hrow).1
  have hcells : ∀ hwidth : width rows = width rows', (ofRows rows).rows = (ofRows rows').rows ↔
      List.Forall₂ SameCells (withCells rows) (withCells rows') := by
    intro hwidth
    rw [rows_ofRows, rows_ofRows, ← hwidth]
    exact map_cells_eq_iff (hle rows) (hwidth ▸ hle rows')
  constructor
  · intro h
    have hwidth : width rows = width rows' := by
      rw [← width_rows_ofRows, h, width_rows_ofRows]
    exact ⟨hwidth, (hcells hwidth).1 (congrArg Table.rows h)⟩
  · rintro ⟨hwidth, hsame⟩
    exact eq_of_rows ((hcells hwidth).2 hsame)

/-! ## Canonical form -/

/-- **Building a table is a canonical form.**  Every row of the table is as long as the longest of
the given rows.  The `i`-th row has the cells, up to that width, of the `i`-th given row that has a
cell at all: each is trimmed, and empty where the given row has ended.  There is no row just when no
given row has a cell.  The table of its own rows is the table itself.  And two inputs give the same
table just when they are equally wide and their rows with cells agree one by one, cell by cell. -/
theorem ofRows_canonical (rows : List (List Text)) :
    ((∀ row ∈ rows, row.length ≤ width rows) ∧
      (rows ≠ [] → ∃ row ∈ rows, row.length = width rows)) ∧
    (∀ row ∈ (ofRows rows).rows, row.length = width rows) ∧
    (∀ i : Nat, (ofRows rows).rows[i]?
      = (withCells rows)[i]?.map fun row => (List.range (width rows)).map (cellAt row)) ∧
    ((ofRows rows).isEmpty = true ↔ ∀ row ∈ rows, row = []) ∧
    ofRows (ofRows rows).rows = ofRows rows ∧
    ∀ rows', ofRows rows = ofRows rows' ↔
      width rows = width rows' ∧ List.Forall₂ SameCells (withCells rows) (withCells rows') := by
  refine ⟨⟨fun row => length_le_width, exists_length_eq_width⟩,
    fun row => length_of_mem_rows_ofRows, fun i => ?_, isEmpty_ofRows_iff,
    ofRows_rows (ofRows rows), fun rows' => ofRows_eq_iff⟩
  rw [rows_ofRows, List.getElem?_map]

/-- Rows of three lengths, one of them without a cell. -/
def raggedRows : List (List Text) :=
  [[" a ".toList], [], ["b".toList, " ".toList, " c".toList]]

/-- They give the table that written-out rows give. -/
theorem ofRows_canonical_raggedRows :
    raggedRows ≠ [] ∧ (∃ row ∈ raggedRows, row.length = 3) ∧
    (∀ row ∈ (ofRows raggedRows).rows, row.length = 3) ∧
    (ofRows raggedRows).rows[0]? = some ["a".toList, [], []] ∧
    List.Forall₂ SameCells (withCells raggedRows)
      [["a".toList, [], []], ["b".toList, [], "c".toList]] := by
  have hne : raggedRows ≠ [] := by decide
  have hthree : width raggedRows = 3 := by decide
  obtain ⟨⟨-, hlongest⟩, hlength, hrows, -, -, hsame⟩ := ofRows_canonical raggedRows
  refine ⟨hne, hthree ▸ hlongest hne, hthree ▸ hlength, ?_, ?_⟩
  · rw [hrows]
    decide +kernel
  · exact ((hsame [["a".toList, [], []], ["b".toList, [], "c".toList]]).1 (by decide +kernel)).2

end Scenarist.Table
