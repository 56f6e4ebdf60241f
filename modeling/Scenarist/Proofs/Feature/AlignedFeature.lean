/-
  Aligned features — aligning a feature touches the rows of its elements, and nothing else.

  1. **Which lines are rows.**  The lines of a feature are those of its entries.  If cells are one line
     each and no line of another text is a row, then the rows among the lines are just the entries
     that are rows (`isRow_of_mem_row`, `not_isRow_of_mem_other`).

  2. **What becomes of them.**  Every other entry stays and cuts aligning in two.  Every row keeps its
     indentation and its cells, and rows next to each other share their columns, from whatever
     elements they come (`align_touches_rows`).
-/
import Scenarist.Proofs.Feature.Columns
import Scenarist.Proofs.Feature.RowLines

namespace Scenarist.Feature

open Scenarist.Alignment (cells isRow indentation alignLines align render bars)

variable {o : Outline} {row : List Text} {t line front : Text} {c : Char}

/-! ## Texts and cells -/

/-- The cells of the rows of an element. -/
def cellTexts : Element → List Text
  | .table t => t.rows.flatten
  | .bullet header value => [header, value]
  | _ => []

/-- The texts of an element that are printed as they are. -/
def ownTexts : Element → List Text
  | .step text => [text]
  | .comment text => [text]
  | _ => []

/-- The texts of an outline that are no cells. -/
def texts (o : Outline) : List Text :=
  o.title :: (o.comments ++ o.background
    ++ o.scenarios.flatMap fun s => s.name :: s.elements.flatMap ownTexts)

/-- The texts of an outline, part by part. -/
theorem forall_mem_texts_iff {P : Text → Prop} :
    (∀ t ∈ texts o, P t) ↔
      P o.title ∧ (∀ t ∈ o.comments, P t) ∧ (∀ t ∈ o.background, P t) ∧
        ∀ s ∈ o.scenarios, P s.name ∧ ∀ e ∈ s.elements, ∀ t ∈ ownTexts e, P t := by
  have hscenarios : (∀ t ∈ o.scenarios.flatMap fun s => s.name :: s.elements.flatMap ownTexts, P t) ↔
      ∀ s ∈ o.scenarios, P s.name ∧ ∀ e ∈ s.elements, ∀ t ∈ ownTexts e, P t := by
    rw [List.forall_mem_flatMap]
    exact forall₂_congr fun s _ => by rw [List.forall_mem_cons, List.forall_mem_flatMap]
  rw [texts, List.forall_mem_cons, List.forall_mem_append, List.forall_mem_append, and_assoc,
    hscenarios]

/-- Whether cells are one line each, and no line of another text looks like a row. -/
structure RowsApart (o : Outline) : Prop where
  /-- No cell holds a line feed. -/
  cells : ∀ s ∈ o.scenarios, ∀ e ∈ s.elements, ∀ cell ∈ cellTexts e, '\n' ∉ cell
  /-- No line of another text is a row. -/
  texts : ∀ t ∈ texts o, ∀ line ∈ Text.lines t, isRow line = false

/-! ## Which lines are rows -/

/-- Whether no line of a text is a row. -/
def NoRows (t : Text) : Prop := ∀ line ∈ Text.lines t, isRow line = false

/-- What stands in front of a text stands in front of its first line. -/
theorem lines_front (hfront : '\n' ∉ front) (t : Text) :
    ∃ first rest, Text.lines t = first :: rest ∧ Text.lines (front ++ t) = (front ++ first) :: rest := by
  obtain ⟨first, rest, hlines⟩ := List.exists_cons_of_ne_nil (Text.lines_ne_nil t)
  refine ⟨first, rest, hlines, ?_⟩
  induction front with
  | nil => exact hlines
  | cons c front ih =>
    obtain ⟨hc, hfront⟩ : '\n' ≠ c ∧ '\n' ∉ front := by simpa using hfront
    have hcut : ¬ (c == '\n') = true := by simpa using Ne.symm hc
    have ih : Text.splitWhere (· == '\n') (front ++ t) = (front ++ first) :: rest := ih hfront
    rw [List.cons_append, Text.lines, Text.splitWhere, if_neg hcut, ih]
    rfl

/-- Texts without rows stay so with something in front that makes no row of a line. -/
theorem NoRows.fronted (ht : NoRows t) (hfront : '\n' ∉ front)
    (hfirst : ∀ line, isRow line = false → isRow (front ++ line) = false) : NoRows (front ++ t) := by
  intro line hline
  obtain ⟨first, rest, hlines, hfronted⟩ := lines_front hfront t
  rw [NoRows, hlines] at ht
  rw [hfronted] at hline
  rcases List.mem_cons.1 hline with rfl | hline
  · exact hfirst first (ht first (List.mem_cons_self ..))
  · exact ht line (List.mem_cons_of_mem first hline)

/-- A line that starts with something else than a bar is no row. -/
theorem not_isRow_of_start (h : (Text.trimStart line).head? = some c) (hc : c ≠ '|') :
    isRow line = false := by
  obtain ⟨rest, hrest⟩ := List.head?_eq_some_iff.1 h
  have hhead : (Text.trim line).head? ≠ some '|' := by
    intro hbar
    obtain ⟨more, hmore⟩ := List.head?_eq_some_iff.1 hbar
    obtain ⟨tail, htail⟩ := Text.trimEnd_prefix (Text.trimStart line)
    rw [← Text.trim, hmore, hrest] at htail
    exact hc (List.cons.inj htail).1.symm
  simp [isRow, hhead]

theorem NoRows.title (ht : NoRows t) : NoRows ("Feature: ".toList ++ t) := by
  refine ht.fronted (by decide) fun line _ => ?_
  exact not_isRow_of_start (c := 'F') rfl (by decide)

theorem NoRows.name (ht : NoRows t) : NoRows ("Scenario: ".toList ++ t) := by
  refine ht.fronted (by decide) fun line _ => ?_
  exact not_isRow_of_start (c := 'S') rfl (by decide)

theorem NoRows.hash (ht : NoRows t) : NoRows ('#' :: t) := by
  have hhash : NoRows (['#'] ++ t) := by
    refine ht.fronted (by decide) fun line _ => ?_
    exact not_isRow_of_start (c := '#') rfl (by decide)
  exact hhash

/-- Spaces in front of a line do not matter to what it is. -/
theorem NoRows.indent (ht : NoRows t) (n : Nat) : NoRows (Text.indent n t) := by
  have hspaces : ∀ c ∈ List.replicate n ' ', c = ' ' := fun c hc => List.eq_of_mem_replicate hc
  refine ht.fronted (fun h => absurd (hspaces _ h) (by decide)) fun line hline => ?_
  have htrim : Text.trim (List.replicate n ' ' ++ line) = Text.trim line := by
    refine Text.trim_blank_append (fun c hc => ?_) line
    rw [hspaces c hc]
    decide
  unfold isRow at hline ⊢
  rw [htrim]
  exact hline

theorem noRows_nil : NoRows [] := by
  intro line hline
  obtain rfl : line = [] := List.mem_singleton.1 hline
  rfl

/-! ## Entries -/

/-- What an entry must be so that just the rows among its lines are rows of cells. -/
def Entry.Apart : Entry → Prop
  | .row row => ∀ cell ∈ row, '\n' ∉ cell
  | .other t => NoRows t

theorem apart_elementEntries {previous : Option Element} {e : Element}
    (hcells : ∀ cell ∈ cellTexts e, '\n' ∉ cell) (htexts : ∀ t ∈ ownTexts e, NoRows t) :
    ∀ entry ∈ elementEntries previous e, entry.Apart := by
  intro entry hentry
  cases e with
  | step text =>
    rw [List.mem_singleton.1 hentry]
    exact (htexts text (List.mem_singleton_self _)).indent 2
  | comment text =>
    rw [List.mem_singleton.1 hentry]
    exact (htexts text (List.mem_singleton_self _)).hash.indent 2
  | table t =>
    rw [elementEntries] at hentry
    split at hentry
    · rw [List.mem_singleton.1 hentry]
      exact noRows_nil
    · obtain ⟨row, hrow, rfl⟩ := List.mem_map.1 hentry
      intro cell hcell
      exact hcells cell (List.mem_flatten.2 ⟨row, hrow, hcell⟩)
  | bullet header value =>
    have hsingle : ∀ text ∈ [header, value], (Entry.row [text]).Apart := by
      intro text htext cell hcell
      rw [List.mem_singleton.1 hcell]
      exact hcells text htext
    rw [elementEntries] at hentry
    split at hentry
    · rw [List.mem_singleton.1 hentry]
      exact hsingle value (by simp)
    · rcases List.mem_pair.1 hentry with rfl | rfl
      · exact hsingle header (by simp)
      · exact hsingle value (by simp)

theorem apart_elementEntriesAfter {es : List Element}
    (hcells : ∀ e ∈ es, ∀ cell ∈ cellTexts e, '\n' ∉ cell)
    (htexts : ∀ e ∈ es, ∀ t ∈ ownTexts e, NoRows t) :
    ∀ previous, ∀ entry ∈ elementEntriesAfter previous es, entry.Apart := by
  induction es with
  | nil =>
    intro previous entry hentry
    cases hentry
  | cons e es ih =>
    intro previous entry hentry
    rcases List.mem_append.1 hentry with hentry | hentry
    · exact apart_elementEntries (hcells e (List.mem_cons_self ..)) (htexts e (List.mem_cons_self ..))
        entry hentry
    · exact ih (fun d hd => hcells d (List.mem_cons_of_mem e hd))
        (fun d hd => htexts d (List.mem_cons_of_mem e hd)) _ entry hentry

/-- **The entries of a feature** are rows on one line each, and texts without rows. -/
theorem apart_entries (hapart : RowsApart o) : ∀ entry ∈ entries o, entry.Apart := by
  obtain ⟨hcells, htexts⟩ := hapart
  have htitle : NoRows o.title := htexts _ (List.mem_cons_self ..)
  have hcomments : ∀ t ∈ o.comments, NoRows t := fun t ht =>
    htexts t (List.mem_cons_of_mem _ (List.mem_append_left _ (List.mem_append_left _ ht)))
  have hbackground : ∀ t ∈ o.background, NoRows t := fun t ht =>
    htexts t (List.mem_cons_of_mem _ (List.mem_append_left _ (List.mem_append_right _ ht)))
  have hscenarios : ∀ s ∈ o.scenarios, ∀ t ∈ s.name :: s.elements.flatMap ownTexts, NoRows t :=
    fun s hs t ht => htexts t (List.mem_cons_of_mem _
      (List.mem_append_right _ (List.mem_flatMap.2 ⟨s, hs, ht⟩)))
  intro entry hentry
  rcases List.mem_append.1 hentry with hentry | hentry
  · rcases List.mem_append.1 hentry with hentry | hentry
    · rcases List.mem_append.1 hentry with hentry | hentry
      · rw [List.mem_singleton.1 hentry]
        exact htitle.title
      · obtain ⟨comment, hcomment, rfl⟩ := List.mem_map.1 hentry
        exact hcomments comment hcomment
    · unfold backgroundEntries at hentry
      split at hentry
      · cases hentry
      · rcases List.mem_append.1 hentry with hentry | hentry
        · rcases List.mem_pair.1 hentry with rfl | rfl
          · exact noRows_nil
          · show NoRows _
            unfold NoRows
            decide
        · obtain ⟨step, hstep, rfl⟩ := List.mem_map.1 hentry
          exact (hbackground step hstep).indent 2
  · obtain ⟨s, hs, hentry⟩ := List.mem_flatMap.1 hentry
    rcases List.mem_append.1 hentry with hentry | hentry
    · rcases List.mem_pair.1 hentry with rfl | rfl
      · exact noRows_nil
      · exact (hscenarios s hs _ (List.mem_cons_self ..)).name
    · refine apart_elementEntriesAfter (fun e he => ?_) (fun e he t ht => ?_) none entry hentry
      · exact hcells s hs e (mem_of_mem_dropRepeatsAfter he)
      · have he : e ∈ s.elements := mem_of_mem_dropRepeatsAfter he
        exact hscenarios s hs t (List.mem_cons_of_mem _ (List.mem_flatMap.2 ⟨e, he, ht⟩))

/-! ## Lines -/

/-- The line of a row on one line. -/
theorem lines_row (h : ∀ cell ∈ row, '\n' ∉ cell) : (Entry.row row).lines = [rowLine row] := by
  refine Text.lines_eq_singleton fun hfeed => ?_
  obtain ⟨cell, hcell, hc⟩ := feed_mem_rowLine.1 hfeed
  exact h cell hcell hc

theorem entryLines_rows {rows : List (List Text)}
    (h : ∀ row ∈ rows, ∀ cell ∈ row, '\n' ∉ cell) :
    entryLines (rows.map .row) = rows.map rowLine := by
  induction rows with
  | nil => rfl
  | cons row rows ih =>
    rw [List.map_cons, entryLines_cons, lines_row (h row (List.mem_cons_self ..)),
      ih fun r hr => h r (List.mem_cons_of_mem row hr)]
    rfl

theorem indentation_rowLine (row : List Text) :
    indentation (rowLine row) = List.replicate 4 ' ' :=
  Alignment.indentation_row blank_indent row

/-- All rows among the lines of a feature are moved right by four spaces. -/
theorem indentation_entryLines (hapart : RowsApart o) :
    ∀ line ∈ entryLines (entries o), isRow line = true →
      indentation line = List.replicate 4 ' ' := by
  intro line hline hrow
  obtain ⟨entry, hentry, hline⟩ := List.mem_flatMap.1 hline
  have hapart := apart_entries hapart entry hentry
  cases entry with
  | row row =>
    rw [lines_row hapart] at hline
    rw [List.mem_singleton.1 hline]
    exact indentation_rowLine row
  | other t =>
    have hnone : isRow line = false := hapart line hline
    rw [hrow] at hnone
    cases hnone

theorem shown_of_valid (hvalid : o.isValid = true) : shown (some o) = compose o := by
  rw [shown, convert, if_pos hvalid]

/-! ## Aligned features -/

/-- **Aligning touches the rows of elements, and nothing else.**  Let cells be one line each, and let
no line of the other texts look like a row.  A feature has as many lines aligned as it has as it is.
Whatever is no row of an element stays, and what is before it is aligned without a look at what comes
after it, and the other way round.  Each row stays a row with four spaces in front and with its cells.
Rows that follow each other have their bars at the same places, as far as each goes. -/
theorem align_touches_rows (hvalid : o.isValid = true) (hapart : RowsApart o) :
    let plain := Text.lines (render (some o) false)
    let aligned := Text.lines (render (some o) true)
    plain = entryLines (entries o) ∧ aligned.length = plain.length ∧
    (∀ before t after, entries o = before ++ .other t :: after →
      (alignLines (entryLines before)).length = (entryLines before).length ∧
      aligned = alignLines (entryLines before) ++ Text.lines t ++ alignLines (entryLines after)) ∧
    (∀ before row after, entries o = before ++ .row row :: after →
      plain[(entryLines before).length]? = some (rowLine row) ∧
      ∃ line, aligned[(entryLines before).length]? = some line ∧ isRow line = true ∧
        indentation line = List.replicate 4 ' ' ∧ cells line = cells (rowLine row)) ∧
    (∀ before (rows : List (List Text)) after, entries o = before ++ rows.map .row ++ after →
      ∃ places, ∀ k line, (entryLines before).length ≤ k →
        k < (entryLines before).length + rows.length → aligned[k]? = some line →
          bars line <+: places) := by
  intro plain aligned
  have hplain : plain = entryLines (entries o) := by
    show Text.lines (shown (some o)) = _
    rw [shown_of_valid hvalid, lines_compose]
  have haligned : aligned = alignLines plain := Alignment.lines_align _
  have hall := apart_entries hapart
  refine ⟨hplain, ?_, fun before t after hsplit => ⟨Alignment.length_alignLines _, ?_⟩,
    fun before row after hsplit => ?_, fun before rows after hsplit => ?_⟩
  · rw [haligned, Alignment.length_alignLines]
  · have hnone : NoRows t := hall (.other t) (by rw [hsplit]; simp)
    have hlines : entryLines (entries o) = entryLines before ++ Text.lines t ++ entryLines after := by
      rw [hsplit, entryLines_append, entryLines_cons, ← List.append_assoc]
      rfl
    rw [haligned, hplain, hlines]
    exact Alignment.alignLines_append_others hnone (Text.lines_ne_nil t) _ _
  · have hcells : ∀ cell ∈ row, '\n' ∉ cell := hall (.row row) (by rw [hsplit]; simp)
    have hline : plain[(entryLines before).length]? = some (rowLine row) := by
      rw [hplain, hsplit, entryLines_append, entryLines_cons, lines_row hcells,
        List.getElem?_append_right (Nat.le_refl _), Nat.sub_self]
      rfl
    obtain ⟨line, hk, hrow, hsame⟩ := Alignment.cells_alignLines hline (isRow_rowLine row)
    have hindent : ∀ l ∈ plain, isRow l = true → indentation l = List.replicate 4 ' ' := by
      rw [hplain]
      exact indentation_entryLines hapart
    refine ⟨hline, line, by rw [haligned]; exact hk, hrow, ?_, hsame⟩
    exact Alignment.indentation_alignLines hindent (List.mem_of_getElem? hk) hrow
  · have hrows : ∀ row ∈ rows, ∀ cell ∈ row, '\n' ∉ cell := by
      intro row hrow
      refine hall (.row row) ?_
      rw [hsplit]
      exact List.mem_append_left _ (List.mem_append_right _ (List.mem_map_of_mem hrow))
    cases rows with
    | nil => exact ⟨[], fun k line hfirst hlast => absurd hlast (by simpa using hfirst)⟩
    | cons first rows =>
      have hisRow : ∀ l ∈ (first :: rows).map rowLine, isRow l = true := by
        intro l hl
        obtain ⟨row, -, rfl⟩ := List.mem_map.1 hl
        exact isRow_rowLine row
      have hshared := Alignment.bars_alignLines (List.cons_ne_nil (rowLine first) _) hisRow
        (entryLines before) (entryLines after)
      rw [← List.map_cons, List.length_map] at hshared
      rw [haligned, hplain, hsplit, entryLines_append, entryLines_append, entryLines_rows hrows]
      exact hshared

instance (o : Outline) : Decidable (RowsApart o) :=
  decidable_of_iff
    ((∀ s ∈ o.scenarios, ∀ e ∈ s.elements, ∀ cell ∈ cellTexts e, '\n' ∉ cell) ∧
      ∀ t ∈ texts o, ∀ line ∈ Text.lines t, isRow line = false)
    ⟨fun ⟨h, h'⟩ => ⟨h, h'⟩, fun ⟨h, h'⟩ => ⟨h, h'⟩⟩

/-- A feature with a table right before two bullets, and a comment of two lines between tables. -/
def mixedRows : Outline :=
  { title := "T |".toList
    scenarios :=
      [ { name := "|S".toList
          elements :=
            [ .table (Table.ofRows [["a".toList, "bb".toList], ["long".toList, []]]),
              .bullet "Errors".toList "x|y".toList, .bullet "Errors".toList [],
              .comment "| c\n  d |".toList, .table (Table.ofRows [["e".toList]]) ] } ] }

/-- The rows of the table and of the bullets share their columns, and the comment sets the last table
apart. -/
theorem align_touches_rows_mixedRows :
    mixedRows.isValid = true ∧ RowsApart mixedRows ∧
    Text.lines (render (some mixedRows) true)
      = ["Feature: T |".toList, [], "Scenario: |S".toList, "    | a      | bb |".toList,
          "    | long   |    |".toList, "    | Errors |".toList, "    | x      | y  |".toList,
          "    |        |".toList, "  #| c".toList, "  d |".toList, "    | e |".toList] ∧
    ∃ places, ∀ k line, 3 ≤ k → k < 3 + 5 →
      (Text.lines (render (some mixedRows) true))[k]? = some line → bars line <+: places := by
  have hvalid : mixedRows.isValid = true := by decide
  have hapart : RowsApart mixedRows := by decide +kernel
  obtain ⟨-, -, -, -, hshared⟩ := align_touches_rows hvalid hapart
  have hplaces := hshared
    [.other "Feature: T |".toList, .other [], .other "Scenario: |S".toList]
    [["a".toList, "bb".toList], ["long".toList, []], ["Errors".toList], ["x|y".toList], [[]]]
    [.other "  #| c\n  d |".toList, .row ["e".toList]] (by decide +kernel)
  exact ⟨hvalid, hapart, by decide +kernel, hplaces⟩

/-- A feature with a table without rows. -/
def rowlessTable : Outline :=
  { title := "T".toList
    scenarios := [ { name := "S".toList, elements := [.table (Table.ofRows [])] } ] }

/-- A table without rows is printed as an empty line, and that is moved right by no spaces, aligned or
not. -/
theorem rowlessTable_not_indented :
    rowlessTable.isValid = true ∧ RowsApart rowlessTable ∧
    Text.lines (elementText none (.table (Table.ofRows []))) = [[]] ∧
    (∀ aligned, Text.lines (render (some rowlessTable) aligned)
      = ["Feature: T".toList, [], "Scenario: S".toList, []]) ∧
    indentation [] ≠ List.replicate 4 ' ' := by
  decide +kernel

end Scenarist.Feature
