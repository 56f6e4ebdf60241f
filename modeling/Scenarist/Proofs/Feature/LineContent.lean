/-
  Line content — what the lines of a text say, before and after they are aligned.

  1. **Characters.**  Without its blanks a row is its cells without theirs, between bars
     (`withoutBlanks_row`).  A bar on its own is the one exception: it is a row with an empty cell, and
     the written row has two bars.

  2. **Lines kept.**  So aligning takes each line to a line that keeps its content
     (`keepsContent_alignLines`), and changes no more than blanks inside of rows (`content_kept`).

  3. **Content.**  A row says its cells, any other line says itself.  Line by line, what the aligned lines
     say is what the lines said (`map_content_alignLines`).
-/
import Scenarist.Proofs.Feature.Alignment
import Scenarist.Proofs.Text.Letters

namespace Scenarist.Alignment

variable {run ls : List Text} {line aligned : Text} {k : Nat}

/-! ## Characters -/

/-- A row that is not a bar on its own has two outer bars. -/
theorem trim_of_isRow (hrow : isRow line = true) (hbar : Text.trim line ≠ ['|']) :
    Text.trim line = '|' :: inside line ++ ['|'] := by
  obtain ⟨hhead, hlast⟩ : (Text.trim line).head? = some '|' ∧ (Text.trim line).getLast? = some '|' := by
    simpa [isRow] using hrow
  obtain ⟨rest, hrest⟩ := List.head?_eq_some_iff.1 hhead
  -- more than the first bar is there, so the last bar is another one
  have hne : rest ≠ [] := by
    rintro rfl
    exact hbar hrest
  have hlast : rest.getLast hne = '|' := by
    rw [hrest, List.getLast?_cons, List.getLast?_eq_some_getLast hne] at hlast
    exact Option.some.inj hlast
  have hinside : inside line = rest.dropLast := by
    rw [inside, hrest]
    rfl
  have hends : rest = rest.dropLast ++ ['|'] := by
    rw [← hlast, List.dropLast_concat_getLast hne]
  rw [hrest, hinside, List.cons_append, ← hends]

/-- **A row without its blanks** is its cells without theirs, with bars between and around them. -/
theorem withoutBlanks_row (hrow : isRow line = true) (hbar : Text.trim line ≠ ['|']) :
    Text.withoutBlanks line
      = '|' :: List.intercalate ['|'] ((cells line).map Text.withoutBlanks) ++ ['|'] := by
  have hinside : Text.withoutBlanks (inside line)
      = List.intercalate ['|'] ((cells line).map Text.withoutBlanks) := by
    have hpieces : (cells line).map Text.withoutBlanks
        = (Text.splitWhere (· == '|') (inside line)).map Text.withoutBlanks := by
      rw [cells, List.map_map]
      exact List.map_congr_left fun piece _ => Text.withoutBlanks_trim piece
    have hjoined := Text.intercalate_splitWhere '|' (inside line)
    calc Text.withoutBlanks (inside line)
        = Text.withoutBlanks (List.intercalate ['|'] (Text.splitWhere (· == '|') (inside line))) := by
          rw [hjoined]
      _ = List.intercalate ['|'] ((cells line).map Text.withoutBlanks) := by
          rw [Text.withoutBlanks_intercalate, hpieces]
          rfl
  calc Text.withoutBlanks line
      = Text.withoutBlanks (['|'] ++ inside line ++ ['|']) := by
        rw [← Text.withoutBlanks_trim line, trim_of_isRow hrow hbar]
        rfl
    _ = '|' :: List.intercalate ['|'] ((cells line).map Text.withoutBlanks) ++ ['|'] := by
        rw [Text.withoutBlanks_append, Text.withoutBlanks_append, hinside]
        rfl

/-- A written row has more than one bar. -/
theorem trim_row_ne_bar {indent : Text} (hindent : ∀ c ∈ indent, Text.isBlank c = true)
    (xs : List Text) : Text.trim (indent ++ Feature.row xs) ≠ ['|'] := by
  intro hbar
  rw [trim_row hindent] at hbar
  have hlength := congrArg List.length hbar
  simp [Feature.row] at hlength

/-! ## Lines kept -/

/-- What aligning keeps of a line. -/
structure KeepsContent (line aligned : Text) : Prop where
  /-- A line that is no row stays as it is. -/
  other : isRow line = false → aligned = line
  /-- A row stays a row. -/
  row : isRow line = true → isRow aligned = true
  /-- It keeps its cells. -/
  cells : isRow line = true → cells aligned = cells line
  /-- It keeps its characters and their order, blanks and a bar on its own apart. -/
  characters : isRow line = true → Text.trim line ≠ ['|'] →
    Text.withoutBlanks aligned = Text.withoutBlanks line

theorem KeepsContent.refl (line : Text) : KeepsContent line line where
  other := fun _ => rfl
  row := id
  cells := fun _ => rfl
  characters := fun _ _ => rfl

theorem keepsContent_row {indent : Text} {ws : List Nat} (hrow : isRow line = true)
    (hindent : ∀ c ∈ indent, Text.isBlank c = true) (hlen : (Alignment.cells line).length ≤ ws.length) :
    KeepsContent line (alignedRow indent ws (Alignment.cells line)) := by
  have haligned : isRow (alignedRow indent ws (Alignment.cells line)) = true := isRow_row hindent _
  have hcells := cells_alignedRow hindent hlen
  constructor
  · intro hother
    rw [hrow] at hother
    cases hother
  · intro _
    exact haligned
  · intro _
    exact hcells
  · intro _ hbar
    rw [withoutBlanks_row haligned (trim_row_ne_bar hindent _), hcells, withoutBlanks_row hrow hbar]

theorem keepsContent_alignedRun (hrun : ∀ l ∈ run, isRow l = true) :
    List.Forall₂ KeepsContent run (alignedRun run) := by
  have hindent : ∀ c ∈ indentation (run.headD []), Text.isBlank c = true :=
    fun _ hc => isBlank_of_mem_indentation hc
  rw [alignedRun, List.map_map, List.forall₂_map_right_iff]
  refine List.forall₂_same.2 fun line hline => ?_
  exact keepsContent_row (hrun line hline) hindent (length_le_widths (List.mem_map_of_mem hline))

/-- **Lines keep their content**, run by run. -/
theorem keepsContent_alignLines (ls : List Text) : List.Forall₂ KeepsContent ls (alignLines ls) := by
  induction ls using alignLines.induct with
  | case1 =>
    rw [alignLines]
    exact .nil
  | case2 line rest hline ih =>
    have hrun : ∀ l ∈ line :: rest.takeWhile isRow, isRow l = true := by
      intro l hl
      rcases List.mem_cons.1 hl with rfl | hl
      · exact hline
      · exact List.mem_takeWhile_imp hl
    have hsplit : line :: rest = (line :: rest.takeWhile isRow) ++ rest.dropWhile isRow := by
      rw [List.cons_append, List.takeWhile_append_dropWhile]
    rw [alignLines, if_pos hline]
    rw [hsplit]
    exact List.rel_append (keepsContent_alignedRun hrun) ih
  | case3 line rest hline ih =>
    have hline : isRow line = false := by simpa using hline
    rw [alignLines_other hline]
    exact .cons (.refl line) ih

theorem length_alignLines (ls : List Text) : (alignLines ls).length = ls.length :=
  (keepsContent_alignLines ls).length_eq.symm

theorem keepsContent_getElem? (hk : ls[k]? = some line) :
    ∃ aligned, (alignLines ls)[k]? = some aligned ∧ KeepsContent line aligned := by
  obtain ⟨hlt, rfl⟩ := List.getElem?_eq_some_iff.1 hk
  have haligned : k < (alignLines ls).length := by
    rw [length_alignLines]
    exact hlt
  exact ⟨_, List.getElem?_eq_getElem haligned, (keepsContent_alignLines ls).get hlt haligned⟩

/-- A row is a row with the same cells after aligning. -/
theorem cells_alignLines (hk : ls[k]? = some line) (hrow : isRow line = true) :
    ∃ aligned, (alignLines ls)[k]? = some aligned ∧ isRow aligned = true
      ∧ cells aligned = cells line := by
  obtain ⟨aligned, haligned, hkept⟩ := keepsContent_getElem? hk
  exact ⟨aligned, haligned, hkept.row hrow, hkept.cells hrow⟩

/-- **Aligning keeps the content of every line.**  A text has as many lines aligned as it has as it is.
A line that is no row stays.  A row becomes a row with the same cells and, unless it is a bar on its
own, with the same characters in the same order, blanks apart. -/
theorem content_kept (t : Text) :
    (Text.lines (align t)).length = (Text.lines t).length ∧
    List.Forall₂ KeepsContent (Text.lines t) (Text.lines (align t)) := by
  rw [lines_align]
  exact ⟨length_alignLines _, keepsContent_alignLines _⟩

/-- A bar on its own gets a second bar. -/
example : align "a\n |\n|\tb\t|".toList = "a\n |   |\n | b |".toList := by decide +kernel

/-! ## Content -/

/-- What a line says: the cells of a row, or the line itself. -/
def content (line : Text) : List Text ⊕ Text :=
  if isRow line then .inl (cells line) else .inr line

theorem content_row (h : isRow line = true) : content line = .inl (cells line) := if_pos h

theorem KeepsContent.content_eq (h : KeepsContent line aligned) : content aligned = content line := by
  cases hrow : isRow line with
  | true => rw [content_row hrow, content_row (h.row hrow), h.cells hrow]
  | false => rw [h.other hrow]

/-- **Aligning keeps what every line says.** -/
theorem map_content_alignLines (ls : List Text) : (alignLines ls).map content = ls.map content := by
  have hkept := keepsContent_alignLines ls
  generalize alignLines ls = aligned at hkept
  induction hkept with
  | nil => rfl
  | cons hline _ ih => rw [List.map_cons, List.map_cons, hline.content_eq, ih]

end Scenarist.Alignment
