/-
  Tables — rectangles of trimmed cells.

  1. `normalRows` trims every cell, leaves out rows without a cell and fills short rows up with
     empty cells to the length of the longest.

  2. A `Table` is a list of rows that this changes no more, so two tables are equal exactly when
     they print alike.  `Table.ofRows` builds one from any rows.
-/
import Scenarist.Text.Basic

namespace Scenarist

namespace Table

/-- The length of the longest row. -/
def width (rows : List (List Text)) : Nat := (rows.map List.length).foldr max 0

/-- A row filled up to `n` cells with empty ones. -/
def pad (n : Nat) (row : List Text) : List Text := row ++ List.replicate (n - row.length) []

/-- The rows that have a cell, with every cell trimmed. -/
def trimmedRows (rows : List (List Text)) : List (List Text) :=
  (rows.filter fun row => !row.isEmpty).map fun row => row.map Text.trim

/-- Rows of trimmed cells, all of one length. -/
def normalRows (rows : List (List Text)) : List (List Text) :=
  let kept := trimmedRows rows
  kept.map (pad (width kept))

/-! ## Normal rows stay as they are -/

theorem length_le_width {rows : List (List Text)} {row : List Text} (h : row ∈ rows) :
    row.length ≤ width rows := by
  induction rows with
  | nil => simp at h
  | cons r rows ih =>
    simp only [width, List.map_cons, List.foldr_cons] at ih ⊢
    rcases List.mem_cons.1 h with rfl | h
    · exact Nat.le_max_left _ _
    · exact Nat.le_trans (ih h) (Nat.le_max_right _ _)

theorem width_le {rows : List (List Text)} {n : Nat} (h : ∀ row ∈ rows, row.length ≤ n) :
    width rows ≤ n := by
  induction rows with
  | nil => simp [width]
  | cons r rows ih =>
    simp only [width, List.map_cons, List.foldr_cons] at ih ⊢
    exact Nat.max_le.2 ⟨h r (by simp), ih fun row hr => h row (by simp [hr])⟩

theorem length_pad {n : Nat} {row : List Text} (h : row.length ≤ n) : (pad n row).length = n := by
  simp only [pad, List.length_append, List.length_replicate]
  omega

theorem pad_of_length {n : Nat} {row : List Text} (h : n ≤ row.length) : pad n row = row := by
  simp [pad, Nat.sub_eq_zero_of_le h]

theorem ne_nil_of_mem_trimmedRows {rows : List (List Text)} {row : List Text}
    (h : row ∈ trimmedRows rows) : row ≠ [] := by
  simp only [trimmedRows, List.mem_map, List.mem_filter] at h
  obtain ⟨r, ⟨_, hr⟩, rfl⟩ := h
  simpa using hr

theorem trim_of_mem_trimmedRows {rows : List (List Text)} {row : List Text} {cell : Text}
    (h : row ∈ trimmedRows rows) (hc : cell ∈ row) : Text.trim cell = cell := by
  simp only [trimmedRows, List.mem_map] at h
  obtain ⟨r, _, rfl⟩ := h
  obtain ⟨c, _, rfl⟩ := List.mem_map.1 hc
  exact Text.trim_trim c

/-- Every row of normal rows has the one common length. -/
theorem length_of_mem_normalRows {rows : List (List Text)} {row : List Text}
    (h : row ∈ normalRows rows) : row.length = width (trimmedRows rows) := by
  simp only [normalRows, List.mem_map] at h
  obtain ⟨r, hr, rfl⟩ := h
  exact length_pad (length_le_width hr)

theorem ne_nil_of_mem_normalRows {rows : List (List Text)} {row : List Text}
    (h : row ∈ normalRows rows) : row ≠ [] := by
  simp only [normalRows, List.mem_map] at h
  obtain ⟨r, hr, rfl⟩ := h
  simp [pad, ne_nil_of_mem_trimmedRows hr]

theorem trim_of_mem_normalRows {rows : List (List Text)} {row : List Text} {cell : Text}
    (h : row ∈ normalRows rows) (hc : cell ∈ row) : Text.trim cell = cell := by
  simp only [normalRows, List.mem_map] at h
  obtain ⟨r, hr, rfl⟩ := h
  rcases List.mem_append.1 hc with hc | hc
  · exact trim_of_mem_trimmedRows hr hc
  · rw [List.eq_of_mem_replicate hc]; rfl

/-- Rows of one length that have cells, all of them trimmed, are normal. -/
theorem normalRows_eq_self {rows : List (List Text)} {n : Nat} (hn : ∀ row ∈ rows, row.length = n)
    (hne : ∀ row ∈ rows, row ≠ []) (ht : ∀ row ∈ rows, ∀ cell ∈ row, Text.trim cell = cell) :
    normalRows rows = rows := by
  have kept : trimmedRows rows = rows := by
    rw [trimmedRows, List.filter_eq_self.2 fun row h => by simpa using hne row h]
    conv => rhs; rw [← List.map_id rows]
    refine List.map_congr_left fun row h => ?_
    conv => rhs; rw [id, ← List.map_id row]
    exact List.map_congr_left fun cell hc => ht row h cell hc
  rw [normalRows, kept]
  conv => rhs; rw [← List.map_id rows]
  refine List.map_congr_left fun row h => pad_of_length ?_
  exact width_le fun r hr => Nat.le_of_eq ((hn r hr).trans (hn row h).symm)

theorem normalRows_normalRows (rows : List (List Text)) :
    normalRows (normalRows rows) = normalRows rows :=
  normalRows_eq_self (fun _ h => length_of_mem_normalRows h) (fun _ h => ne_nil_of_mem_normalRows h)
    fun _ h _ hc => trim_of_mem_normalRows h hc

end Table

/-- A table: rows of trimmed cells, all of one length. -/
structure Table where
  /-- The rows, header first. -/
  rows : List (List Text)
  /-- Trimming and filling up change nothing. -/
  normal : Table.normalRows rows = rows
  deriving DecidableEq

namespace Table

/-- The table of any rows: cells trimmed, rows without cells left out, short rows filled up. -/
def ofRows (rows : List (List Text)) : Table :=
  ⟨normalRows rows, normalRows_normalRows rows⟩

/-- Whether a table has no row. -/
def isEmpty (t : Table) : Bool := t.rows.isEmpty

/-! ## Examples -/

example : (ofRows [[" name ".toList, " role".toList], ["alice".toList], []]).rows
    = [["name".toList, "role".toList], ["alice".toList, []]] := by decide +kernel

example : (ofRows [[], []]).isEmpty = true := by decide

end Table

end Scenarist
