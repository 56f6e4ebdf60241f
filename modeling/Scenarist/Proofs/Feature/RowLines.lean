/-
  Row lines — which printed rows can be read back from the text of a feature.

  1. **One row.**  A row is printed with bars between its cells and no mark is ever escaped.  So it
     stays one line exactly when no cell holds a line feed, and its cells are read back exactly when
     none of them holds a bar (`length_lines_rowLine_eq_one_iff`, `cells_rowLine_iff`).

  2. **Aligning** keeps the number of lines, keeps rows rows, and keeps the cells of each
     (`cells_alignLines`), so whatever is read from a line can be read after aligning too.

  3. **The rows of a page.**  Table cells, values and headers reach the printer trimmed, but nothing
     keeps bars and line feeds out of them.  The two laws therefore hold of every printed row with
     just these conditions (`printed_rows_readBack`); a bullet with a hard break in it does take two
     lines (`bullet_hardBreak`).
-/
import Scenarist.Page.Reading
import Scenarist.Proofs.Feature.Entries
import Scenarist.Proofs.Feature.LineContent
import Scenarist.Proofs.Feature.Repeats
import Scenarist.Proofs.Outline.Filed
import Scenarist.Proofs.Outline.Header

namespace Scenarist.Feature

open Scenarist.Alignment (cells isRow alignLines alignedRun align)

variable {row : List Text} {rows : List (List Text)} {header : Text} {values : List Text}

/-! ## One row -/

theorem blank_indent : ∀ c ∈ List.replicate 4 ' ', Text.isBlank c = true := by
  intro c hc
  rw [List.eq_of_mem_replicate hc]
  rfl

theorem feed_mem_rowLine : '\n' ∈ rowLine row ↔ ∃ cell ∈ row, '\n' ∈ cell := by
  constructor
  · intro h
    rcases List.mem_append.1 h with h | h
    · exact absurd (List.eq_of_mem_replicate h) (by decide)
    · rcases Alignment.written_of_mem_row h with h | h | h
      · exact absurd h (by decide)
      · exact absurd h (by decide)
      · exact h
  · rintro ⟨cell, hcell, hfeed⟩
    have hinner : '\n' ∈ List.intercalate " | ".toList row := Text.mem_intercalate hcell hfeed
    exact List.mem_append_right _ (List.mem_append_left _ (List.mem_append_right _ hinner))

/-- A row is one line exactly when no cell holds a line feed. -/
theorem length_lines_rowLine_eq_one_iff :
    (Text.lines (rowLine row)).length = 1 ↔ ∀ cell ∈ row, '\n' ∉ cell := by
  rw [Text.length_lines_eq_one_iff, feed_mem_rowLine]
  simp

/-- A row of trimmed cells is read back exactly when no cell holds a bar. -/
theorem cells_rowLine_iff (hne : row ≠ []) (htrim : ∀ cell ∈ row, Text.trim cell = cell) :
    cells (rowLine row) = row ↔ ∀ cell ∈ row, '|' ∉ cell := by
  constructor
  · intro h cell hcell
    rw [← h] at hcell
    exact Alignment.bar_not_mem_cell hcell
  · intro hbar
    have hcells : cells (rowLine row) = row.map Text.trim :=
      Alignment.cells_row blank_indent hne hbar
    rw [hcells]
    conv => rhs; rw [← List.map_id row]
    exact List.map_congr_left htrim

theorem isRow_rowLine (row : List Text) : isRow (rowLine row) = true :=
  Alignment.isRow_row blank_indent row

/-! ## Many rows -/

theorem length_lines_pos (t : Text) : 1 ≤ (Text.lines t).length :=
  List.length_pos_iff.2 (Text.lines_ne_nil t)

theorem length_le_entryLines_rows (rows : List (List Text)) :
    rows.length ≤ (entryLines (rows.map .row)).length := by
  induction rows with
  | nil => exact Nat.le_refl _
  | cons row rows ih =>
    rw [List.map_cons, entryLines_cons, List.length_append, List.length_cons]
    have hrow : 1 ≤ (Entry.row row).lines.length := length_lines_pos _
    omega

/-- Rows take as many lines as they are exactly when each takes one. -/
theorem length_entryLines_rows_iff :
    (entryLines (rows.map .row)).length = rows.length ↔ ∀ row ∈ rows, ∀ cell ∈ row, '\n' ∉ cell := by
  induction rows with
  | nil => simp
  | cons row rows ih =>
    have hrow : 1 ≤ (Entry.row row).lines.length := length_lines_pos _
    have hrest := length_le_entryLines_rows rows
    have hone : (Entry.row row).lines.length = 1 ↔ ∀ cell ∈ row, '\n' ∉ cell :=
      length_lines_rowLine_eq_one_iff
    rw [List.forall_mem_cons, ← ih, ← hone, List.map_cons, entryLines_cons, List.length_append,
      List.length_cons]
    omega

/-! ## The rows of a page -/

variable {o : Extraction.Options} {blocks : List Block} {outline : Outline} {text : Text}
  {before after : List Entry}

theorem row_mem_elementEntriesAfter {previous : Option Element} {es : List Element}
    (h : .row row ∈ elementEntriesAfter previous es) :
    ∃ e ∈ es, ∃ previous, .row row ∈ elementEntries previous e := by
  induction es generalizing previous with
  | nil => cases h
  | cons e es ih =>
    rcases List.mem_append.1 h with h | h
    · exact ⟨e, List.mem_cons_self .., previous, h⟩
    · obtain ⟨d, hd, hrow⟩ := ih h
      exact ⟨d, List.mem_cons_of_mem e hd, hrow⟩

/-- Rows come from the elements of scenarios. -/
theorem row_mem_entries (h : .row row ∈ entries outline) :
    ∃ sc ∈ outline.scenarios, ∃ e ∈ sc.elements, ∃ previous, .row row ∈ elementEntries previous e := by
  rcases List.mem_append.1 h with h | h
  · have hother : ∀ e ∈ [.other ("Feature: ".toList ++ outline.title)] ++ outline.comments.map .other
        ++ backgroundEntries outline.background, e ≠ .row row := by
      intro e he
      rcases List.mem_append.1 he with he | he
      · rcases List.mem_append.1 he with he | he
        · rw [List.mem_singleton.1 he]
          nofun
        · obtain ⟨comment, -, rfl⟩ := List.mem_map.1 he
          nofun
      · unfold backgroundEntries at he
        split at he
        · cases he
        · rcases List.mem_append.1 he with he | he
          · rcases List.mem_pair.1 he with rfl | rfl <;> nofun
          · obtain ⟨step, -, rfl⟩ := List.mem_map.1 he
            nofun
    exact absurd rfl (hother _ h)
  · obtain ⟨sc, hsc, h⟩ := List.mem_flatMap.1 h
    rcases List.mem_append.1 h with h | h
    · rcases List.mem_pair.1 h with h | h <;> cases h
    · obtain ⟨e, he, hrow⟩ := row_mem_elementEntriesAfter h
      exact ⟨sc, hsc, e, mem_of_mem_dropRepeatsAfter he, hrow⟩

/-- An element whose rows have cells, all of them trimmed. -/
def HasTrimmedRows (e : Element) : Prop :=
  ∀ previous row, .row row ∈ elementEntries previous e →
    row ≠ [] ∧ ∀ cell ∈ row, Text.trim cell = cell

theorem hasTrimmedRows_table (t : Table) : HasTrimmedRows (.table t) := by
  intro previous row h
  rw [elementEntries] at h
  split at h
  · rcases List.mem_singleton.1 h with h
    cases h
  · obtain ⟨row', hrow', heq⟩ := List.mem_map.1 h
    obtain rfl : row' = row := by injection heq
    rw [← t.normal] at hrow'
    exact ⟨Table.ne_nil_of_mem_normalRows hrow',
      fun cell hcell => Table.trim_of_mem_normalRows hrow' hcell⟩

theorem hasTrimmedRows_bullet {value : Text} (hheader : Text.trim header = header)
    (hvalue : Text.trim value = value) : HasTrimmedRows (.bullet header value) := by
  have hsingle : ∀ {row : List Text} {cell : Text}, Text.trim cell = cell →
      Entry.row row = .row [cell] → row ≠ [] ∧ ∀ c ∈ row, Text.trim c = c := by
    intro row cell hcell heq
    obtain rfl : row = [cell] := by injection heq
    refine ⟨List.cons_ne_nil _ _, fun c hc => ?_⟩
    obtain rfl := List.mem_singleton.1 hc
    exact hcell
  intro previous row h
  rw [elementEntries] at h
  split at h
  · exact hsingle hvalue (List.mem_singleton.1 h)
  · rcases List.mem_pair.1 h with h | h
    · exact hsingle hheader h
    · exact hsingle hvalue h

/-- **Cells reach the printer trimmed**, if the fallback for headers is trimmed. -/
theorem trimmed_of_row_mem_entries (hrun : Extraction.run o blocks = .ok outline)
    (hfallback : Text.trim o.defaultTableHeader = o.defaultTableHeader)
    (h : .row row ∈ entries outline) : row ≠ [] ∧ ∀ cell ∈ row, Text.trim cell = cell := by
  have hadmits : Extraction.Admits o.normalized HasTrimmedRows (fun t => Text.trim t = t) :=
    { comment := fun content previous row h => by cases List.mem_singleton.1 h
      step := fun raw _ previous row h => by cases List.mem_singleton.1 h
      bullet := fun header raw hheader _ => hasTrimmedRows_bullet hheader (Text.trim_trim raw)
      table := fun rows _ => hasTrimmedRows_table _
      fallback := hfallback
      inferred := fun raw => Sentence.trim_headerOf hfallback _ }
  obtain ⟨sc, hsc, e, he, previous, hrow⟩ := row_mem_entries h
  exact Extraction.forall_elements_of_run hadmits hrun sc hsc e he previous row hrow

/-! ## Runs of bullets -/

theorem elementEntriesAfter_append (previous : Option Element) (es fs : List Element) :
    elementEntriesAfter previous (es ++ fs)
      = elementEntriesAfter previous es ++ elementEntriesAfter (es.getLast?.or previous) fs := by
  induction es generalizing previous with
  | nil => rfl
  | cons e es ih =>
    rw [List.cons_append, elementEntriesAfter, elementEntriesAfter, ih, getLast?_cons_or,
      List.append_assoc]

/-- The rows of a run of bullets that have one header. -/
def bulletRows (header : Text) (values : List Text) : List (List Text) :=
  [header] :: values.map fun value => [value]

theorem elementEntriesAfter_bullets {previous : Option Element} (header : Text)
    (values : List Text) (h : previous.any isBullet = true) :
    elementEntriesAfter previous (values.map (Element.bullet header))
      = (values.map fun value => [value]).map .row := by
  induction values generalizing previous with
  | nil => rfl
  | cons v values ih =>
    rw [List.map_cons, elementEntriesAfter, ih rfl, elementEntries, if_pos h]
    rfl

theorem elementEntriesAfter_run {previous : Option Element} (header : Text) (hne : values ≠ [])
    (h : previous.any isBullet = false) :
    elementEntriesAfter previous (values.map (Element.bullet header))
      = (bulletRows header values).map .row := by
  cases values with
  | nil => exact absurd rfl hne
  | cons v values =>
    rw [List.map_cons, elementEntriesAfter, elementEntriesAfter_bullets header values rfl,
      elementEntries, if_neg (by rw [h]; decide)]
    rfl

/-- A maximal run of bullets is printed as the rows of its header and its values. -/
theorem entries_run {sc : Scenario} {es fs : List Element} (hsc : sc ∈ outline.scenarios)
    (hne : values ≠ []) (hsplit : sc.elements = es ++ values.map (Element.bullet header) ++ fs)
    (hmax : MaximalRun es (values.map (Element.bullet header)) fs) :
    (bulletRows header values).map .row <:+: entries outline := by
  have hstarts : ((dropRepeats es).getLast?.or none).any isBullet = false := by
    rw [Option.or_none]
    cases hlast : (dropRepeats es).getLast? with
    | none => rfl
    | some e => exact hmax.dropRepeats.starts e hlast
  have hscenario : (bulletRows header values).map .row <:+: scenarioEntries sc := by
    unfold scenarioEntries
    rw [hsplit, dropRepeats_run hmax, elementEntriesAfter_append, elementEntriesAfter_append,
      elementEntriesAfter_run header hne hstarts, ← List.append_assoc, ← List.append_assoc]
    exact ⟨_, _, rfl⟩
  have hscenarios : scenarioEntries sc <:+: outline.scenarios.flatMap scenarioEntries := by
    rw [List.flatMap_def]
    exact List.infix_of_mem_flatten (List.mem_map_of_mem hsc)
  have hentries : outline.scenarios.flatMap scenarioEntries <:+: entries outline :=
    (List.suffix_append ..).isInfix
  exact (hscenario.trans hscenarios).trans hentries

/-! ## Reading back -/

theorem compose_of_convert (h : convert (some outline) = .ok text) : compose outline = text := by
  change (if outline.isValid then Except.ok (compose outline)
      else Except.error Failure.invalidContent)
    = .ok text at h
  split at h
  · injection h
  · cases h

/-- **Which printed rows are read back.**  The lines of a feature are those of its entries, aligned or
not.  Every row among them is one line if and only if no cell of it holds a line feed; its cells are
then read back from that line, before and after aligning, if and only if none of them holds a bar.
In particular a maximal run of `n` bullets has one header line and `n` value lines if and only if
neither the header nor a value holds a line feed. -/
theorem printed_rows_readBack (hrun : Extraction.run o blocks = .ok outline)
    (htext : convert (some outline) = .ok text)
    (hfallback : Text.trim o.defaultTableHeader = o.defaultTableHeader) :
    Text.lines text = entryLines (entries outline) ∧
    (Text.lines (align text)).length = (Text.lines text).length ∧
    (∀ before row after, entries outline = before ++ .row row :: after →
      ((Text.lines (rowLine row)).length = 1 ↔ ∀ cell ∈ row, '\n' ∉ cell) ∧
      ((∀ cell ∈ row, '\n' ∉ cell) →
        ∃ line aligned,
          (Text.lines text)[(entryLines before).length]? = some line ∧
          (Text.lines (align text))[(entryLines before).length]? = some aligned ∧
          (cells line = row ↔ ∀ cell ∈ row, '|' ∉ cell) ∧
          (cells aligned = row ↔ ∀ cell ∈ row, '|' ∉ cell))) ∧
    (∀ sc ∈ outline.scenarios, ∀ es run fs, sc.elements = es ++ run ++ fs → MaximalRun es run fs →
      ∃ header values, run = values.map (Element.bullet header) ∧
        (bulletRows header values).map .row <:+: entries outline ∧
        ((entryLines ((bulletRows header values).map .row)).length = 1 + values.length ↔
          '\n' ∉ header ∧ ∀ value ∈ values, '\n' ∉ value)) := by
  have hlines : Text.lines text = entryLines (entries outline) := by
    rw [← compose_of_convert htext]
    exact lines_compose outline
  refine ⟨hlines, ?_, fun before row after hsplit => ⟨length_lines_rowLine_eq_one_iff, fun hfeed => ?_⟩,
    fun sc hsc es run fs hsplit hmax => ?_⟩
  · rw [Alignment.lines_align, Alignment.length_alignLines]
  · have hmem : .row row ∈ entries outline := by rw [hsplit]; simp
    obtain ⟨hne, htrim⟩ := trimmed_of_row_mem_entries hrun hfallback hmem
    have hnone : '\n' ∉ rowLine row := by
      rintro h
      obtain ⟨cell, hcell, hc⟩ := feed_mem_rowLine.1 h
      exact hfeed cell hcell hc
    have hone : (Entry.row row).lines = [rowLine row] := Text.lines_eq_singleton hnone
    -- the line stands right after those of the entries before the row
    have hline : (Text.lines text)[(entryLines before).length]? = some (rowLine row) := by
      rw [hlines, hsplit, entryLines_append, entryLines_cons, hone,
        List.getElem?_append_right (Nat.le_refl _), Nat.sub_self]
      rfl
    obtain ⟨aligned, haligned, -, hcells⟩ :=
      Alignment.cells_alignLines hline (isRow_rowLine row)
    rw [← Alignment.lines_align] at haligned
    refine ⟨rowLine row, aligned, hline, haligned, cells_rowLine_iff hne htrim, ?_⟩
    rw [hcells]
    exact cells_rowLine_iff hne htrim
  · have hagree := Extraction.headersAgree_of_run hrun sc hsc
    unfold Extraction.HeadersAgree at hagree
    rw [hsplit] at hagree
    obtain ⟨header, values, hne, rfl⟩ := Extraction.eq_map_bullet hmax.bullets
      hagree.left_of_append.right_of_append hmax.nonempty
    refine ⟨header, values, rfl, entries_run hsc hne hsplit hmax, ?_⟩
    have hlength : (bulletRows header values).length = 1 + values.length := by
      rw [bulletRows, List.length_cons, List.length_map, Nat.add_comm]
    rw [← hlength, length_entryLines_rows_iff]
    simp [bulletRows]

/-- A page with a table, part of which is empty, and two bullets; one cell holds a bar. -/
def barPage : Text :=
  ("# T\n\n## Feature\n\n### Scenarios\n\n#### S\n\n| a \\| b | c |\n|---|---|\n| d |\n\n"
    ++ "Then I see the following errors:\n\n- x\n- `y`\n").toList

/-- Its outline. -/
def barOutline : Outline :=
  { title := "T".toList
    scenarios :=
      [ { name := "S".toList
          elements :=
            [ .table (Table.ofRows [["a | b".toList, "c".toList], ["d".toList, []]]),
              .step "Then I see the following errors:".toList,
              .bullet "Errors".toList "x".toList, .bullet "Errors".toList "y".toList ] } ] }

theorem run_barPage : Extraction.run {} (Page.read 0 barPage).blocks = .ok barOutline :=
  Extraction.toOption_run_eq_some_iff.1 (by decide +kernel)

/-- The row `d`, `` is read back, aligned or not.  The row above it is one line as well, but its cells
are not what is read from it.  The two bullets take three lines. -/
theorem barPage_rows_readBack :
    Extraction.run {} (Page.read 0 barPage).blocks = .ok barOutline ∧
    convert (some barOutline) = .ok (compose barOutline) ∧
    (∃ line aligned, (Text.lines (compose barOutline))[4]? = some line ∧
      (Text.lines (align (compose barOutline)))[4]? = some aligned ∧
      cells line = ["d".toList, []] ∧ cells aligned = ["d".toList, []]) ∧
    (∃ line, (Text.lines (compose barOutline))[3]? = some line ∧
      cells line ≠ ["a | b".toList, "c".toList]) ∧
    (entryLines ((bulletRows "Errors".toList ["x".toList, "y".toList]).map .row)).length = 1 + 2 := by
  have hconvert : convert (some barOutline) = .ok (compose barOutline) := rfl
  obtain ⟨-, -, hrows, hruns⟩ := printed_rows_readBack run_barPage hconvert (by decide)
  refine ⟨run_barPage, hconvert, ?_, ?_, ?_⟩
  · obtain ⟨-, hline⟩ := hrows
      [ .other "Feature: T".toList, .other [], .other "Scenario: S".toList,
        .row ["a | b".toList, "c".toList] ] ["d".toList, []] _ rfl
    obtain ⟨line, aligned, hline, haligned, hcells, hcells'⟩ := hline (by decide)
    exact ⟨line, aligned, hline, haligned, hcells.2 (by decide), hcells'.2 (by decide)⟩
  · obtain ⟨-, hline⟩ := hrows
      [.other "Feature: T".toList, .other [], .other "Scenario: S".toList]
      ["a | b".toList, "c".toList] _ rfl
    obtain ⟨line, -, hline, -, hcells, -⟩ := hline (by decide)
    exact ⟨line, hline, fun heq => absurd (hcells.1 heq) (by decide)⟩
  · obtain ⟨header, values, hvalues, -, hlength⟩ := hruns _ (List.mem_cons_self ..)
      [ .table (Table.ofRows [["a | b".toList, "c".toList], ["d".toList, []]]),
        .step "Then I see the following errors:".toList ]
      [.bullet "Errors".toList "x".toList, .bullet "Errors".toList "y".toList] [] rfl
      ⟨by decide, by decide, by decide, by decide⟩
    obtain ⟨rfl, rfl⟩ : header = "Errors".toList ∧ values = ["x".toList, "y".toList] := by
      cases values with
      | nil => cases hvalues
      | cons v values =>
        cases values with
        | nil => cases hvalues
        | cons w values => simp_all
    exact hlength.2 ⟨by decide, by decide⟩

/-- A page with one bullet, in which a line is broken. -/
def hardBreakPage : Text :=
  ("# T\n\n## Feature\n\n### Scenarios\n\n#### S\n\nThen I see the following errors:\n\n"
    ++ "- a\\\n  b\n").toList

/-- The bullet is the only one under its header, and it takes two lines that are no rows. -/
theorem bullet_hardBreak :
    ((Extraction.run {} (Page.read 0 hardBreakPage).blocks).toOption.map fun o =>
        (o.scenarios.map Scenario.elements, Text.lines (shown (some o))))
      = some
        ( [[ .step "Then I see the following errors:".toList,
            .bullet "Errors".toList "a\nb".toList ]],
          ["Feature: T".toList, [], "Scenario: S".toList,
            "  Then I see the following errors:".toList, "    | Errors |".toList,
            "    | a".toList, "b |".toList] ) ∧
    (∀ line ∈ ["    | a".toList, "b |".toList], isRow line = false ∧ cells line ≠ ["a\nb".toList]) ∧
    (entryLines ((bulletRows "Errors".toList ["a\nb".toList]).map .row)).length ≠ 1 + 1 := by
  decide +kernel

end Scenarist.Feature
