/-
  Alignment settles at once — aligning an aligned text changes nothing.

  1. **A row is read back.**  A row is written as cells between bars, each with blanks beside it.
     Cut at its bars and trimmed it gives the same cells again (`cells_row`), however much the
     cells were filled up (`cells_alignedRow`).

  2. **A run is read back.**  Each column is at least as wide as every row needs, so no cell is
     lost to a missing width (`length_le_widths`).  The written rows have the cells and the
     indentation of the run, so writing them again gives the same lines (`alignedRun_idem`).

  3. **Runs stay apart.**  A written row is a row, and a line that is no row is left alone.  So the
     runs of the aligned lines are the aligned runs of the lines (`alignLines_run`), and the lines
     settle by induction on the runs (`alignLines_idem`).

  4. **Lines stay lines.**  Aligning brings no line feed with it (`written_of_mem_alignLines`), so the lines of
     the aligned text are the aligned lines.
-/
import Scenarist.Feature.Alignment
import Scenarist.Proofs.Text.Split
import Scenarist.Proofs.Text.Trim

namespace Scenarist.Alignment

variable {c : Char} {indent cell line : Text} {xs row : List Text} {ws : List Nat}
  {rows : List (List Text)} {run rest ls : List Text}

/-! ## Rows -/

/-- A cell with a space on both sides. -/
def spaced (cell : Text) : Text := ' ' :: cell ++ [' ']

theorem trim_spaced (cell : Text) : Text.trim (spaced cell) = Text.trim cell := by
  have hsp : ∀ c ∈ [' '], Text.isBlank c = true := by
    intro c hc
    rw [List.mem_singleton.1 hc]
    decide
  have h : spaced cell = [' '] ++ (cell ++ [' ']) := rfl
  rw [h, Text.trim_blank_append hsp, Text.trim_append_blank hsp]

/-- What stands between the outer bars of a row: its spaced cells with bars between them. -/
def inner (xs : List Text) : Text := List.intercalate ['|'] (xs.map spaced)

theorem inner_eq (hne : xs ≠ []) : inner xs = ' ' :: List.intercalate " | ".toList xs ++ [' '] := by
  induction xs with
  | nil => exact absurd rfl hne
  | cons x xs ih =>
    cases xs with
    | nil => simp [inner, spaced]
    | cons y ys =>
      have ih := ih (List.cons_ne_nil y ys)
      simp only [inner, List.map_cons] at ih ⊢
      rw [List.intercalate_cons_cons, ih, List.intercalate_cons_cons]
      simp [spaced]

theorem row_eq (hne : xs ≠ []) : Feature.row xs = '|' :: inner xs ++ ['|'] := by
  rw [inner_eq hne]
  simp [Feature.row]

/-- A row starts and ends with a bar. -/
theorem row_ends (xs : List Text) :
    (Feature.row xs).head? = some '|' ∧ (Feature.row xs).getLast? = some '|' := by
  constructor
  · simp [Feature.row]
  · have h : Feature.row xs
        = ("| ".toList ++ List.intercalate " | ".toList xs ++ [' ']) ++ ['|'] := by
      simp [Feature.row]
    rw [h, List.getLast?_concat]

theorem trim_row (hindent : ∀ c ∈ indent, Text.isBlank c = true) (xs : List Text) :
    Text.trim (indent ++ Feature.row xs) = Feature.row xs := by
  have hbar : ∀ c, c = '|' → Text.isBlank c = false := by rintro _ rfl; decide
  obtain ⟨hhead, hlast⟩ := row_ends xs
  rw [Text.trim_blank_append hindent]
  refine Text.trim_eq_self (fun c hc => hbar c ?_) (fun c hc => hbar c ?_)
  · exact (Option.some.inj (hhead.symm.trans hc)).symm
  · exact (Option.some.inj (hlast.symm.trans hc)).symm

theorem isRow_row (hindent : ∀ c ∈ indent, Text.isBlank c = true) (xs : List Text) :
    isRow (indent ++ Feature.row xs) = true := by
  obtain ⟨hhead, hlast⟩ := row_ends xs
  simp only [isRow, trim_row hindent, hhead, hlast]
  decide

theorem indentation_row (hindent : ∀ c ∈ indent, Text.isBlank c = true) (xs : List Text) :
    indentation (indent ++ Feature.row xs) = indent := by
  have hrow : (Feature.row xs).takeWhile Text.isBlank = [] := rfl
  rw [indentation, List.takeWhile_append_of_pos hindent, hrow, List.append_nil]

/-- **A row is read back**, each cell trimmed. -/
theorem cells_row (hindent : ∀ c ∈ indent, Text.isBlank c = true) (hne : xs ≠ [])
    (hbar : ∀ x ∈ xs, '|' ∉ x) : cells (indent ++ Feature.row xs) = xs.map Text.trim := by
  have hinside : inside (indent ++ Feature.row xs) = inner xs := by
    rw [inside, trim_row hindent, row_eq hne]
    show (inner xs ++ ['|']).dropLast = inner xs
    rw [List.dropLast_concat]
  -- the cells hold no bars, so the row is cut between them only
  have hcut : ∀ p ∈ xs.map spaced, ∀ d ∈ p, (d == '|') = false := by
    intro p hp d hd
    obtain ⟨x, hx, rfl⟩ := List.mem_map.1 hp
    have hd : d = ' ' ∨ d ∈ x := by
      simp only [spaced, List.cons_append, List.mem_cons, List.mem_append,
        List.not_mem_nil, or_false] at hd
      rcases hd with h | h | h
      · exact .inl h
      · exact .inr h
      · exact .inl h
    rcases hd with rfl | hd
    · decide
    · have : d ≠ '|' := by rintro rfl; exact hbar x hx hd
      simpa using this
  have hspaced : xs.map spaced ≠ [] := by simpa using hne
  rw [cells, hinside, inner, Text.splitWhere_intercalate (by decide) hspaced hcut, List.map_map]
  exact List.map_congr_left fun x _ => trim_spaced x

/-- The cells of a line are trimmed. -/
theorem trim_of_mem_cells (h : cell ∈ cells line) : Text.trim cell = cell := by
  obtain ⟨piece, -, rfl⟩ := List.mem_map.1 h
  exact Text.trim_trim piece

/-- The cells of a line hold characters of the line, and no bars. -/
theorem of_mem_cells (h : cell ∈ cells line) (hc : c ∈ cell) : c ∈ line ∧ c ≠ '|' := by
  obtain ⟨piece, hpiece, rfl⟩ := List.mem_map.1 h
  obtain ⟨hmem, hcut⟩ := Text.of_mem_splitWhere hpiece (Text.mem_of_mem_trim hc)
  have hline : c ∈ Text.trim line :=
    List.mem_of_mem_tail ((List.dropLast_sublist _).subset hmem)
  exact ⟨Text.mem_of_mem_trim hline, by simpa using hcut⟩

theorem bar_not_mem_cell (h : cell ∈ cells line) : '|' ∉ cell := by
  intro hc
  exact (of_mem_cells h hc).2 rfl

theorem cells_ne_nil (line : Text) : cells line ≠ [] := by
  have := Text.splitWhere_ne_nil (· == '|') (inside line)
  simpa [cells] using this

/-! ## Columns -/

theorem length_widen (ws row : List Nat) : (widen ws row).length = max ws.length row.length := by
  induction ws generalizing row with
  | nil => simp [widen]
  | cons w ws ih =>
    cases row with
    | nil => simp [widen]
    | cons n row => simp only [widen, List.length_cons, ih]; omega

/-- Every row has at most as many cells as there are columns. -/
theorem length_le_widths (hrow : row ∈ rows) : row.length ≤ (widths rows).length := by
  -- columns are only added from one row to the next
  have hfold : ∀ (rows : List (List Text)) (ws : List Nat),
      ws.length ≤ (rows.foldl (fun ws row => widen ws (row.map List.length)) ws).length
      ∧ ∀ row ∈ rows,
        row.length ≤ (rows.foldl (fun ws row => widen ws (row.map List.length)) ws).length := by
    intro rows
    induction rows with
    | nil => intro ws; exact ⟨Nat.le_refl _, fun row h => nomatch h⟩
    | cons first rows ih =>
      intro ws
      obtain ⟨hws, hrest⟩ := ih (widen ws (first.map List.length))
      rw [length_widen, List.length_map] at hws
      refine ⟨by rw [List.foldl_cons]; omega, fun row hrow => ?_⟩
      rw [List.foldl_cons]
      rcases List.mem_cons.1 hrow with rfl | hrow
      · omega
      · exact hrest row hrow
  exact (hfold rows []).2 row hrow

/-! ## Filling up -/

theorem of_mem_padCell {w : Nat} (hc : c ∈ padCell cell w) : c = ' ' ∨ c ∈ cell := by
  rcases List.mem_append.1 hc with h | h
  · exact .inr h
  · exact .inl (List.eq_of_mem_replicate h)

theorem trim_padCell (cell : Text) (w : Nat) : Text.trim (padCell cell w) = Text.trim cell := by
  refine Text.trim_append_blank (fun c hc => ?_) cell
  obtain rfl := List.eq_of_mem_replicate hc
  decide

/-- Filled up and trimmed, the cells of a row are there again if there are columns for them. -/
theorem map_trim_zipWith_padCell (hlen : row.length ≤ ws.length)
    (htrim : ∀ x ∈ row, Text.trim x = x) :
    (List.zipWith padCell row ws).map Text.trim = row := by
  induction row generalizing ws with
  | nil => rfl
  | cons x row ih =>
    cases ws with
    | nil => exact absurd hlen (by simp)
    | cons w ws =>
      have hrest := ih (Nat.le_of_succ_le_succ hlen) fun y hy => htrim y (List.mem_cons_of_mem x hy)
      rw [List.zipWith_cons_cons, List.map_cons, hrest, trim_padCell, htrim x (List.mem_cons_self ..)]

theorem of_mem_zipWith_padCell {p : Text} (hp : p ∈ List.zipWith padCell row ws) (hc : c ∈ p) :
    c = ' ' ∨ ∃ x ∈ row, c ∈ x := by
  obtain ⟨x, w, hxw, rfl⟩ : ∃ x w, (x, w) ∈ row.zip ws ∧ padCell x w = p := by
    rw [← List.map_uncurry_zip_eq_zipWith] at hp
    obtain ⟨⟨x, w⟩, hxw, h⟩ := List.mem_map.1 hp
    exact ⟨x, w, hxw, h⟩
  rcases of_mem_padCell hc with h | h
  · exact .inl h
  · exact .inr ⟨x, (List.of_mem_zip hxw).1, h⟩

/-! ## Aligned rows -/

theorem isBlank_of_mem_indentation (hc : c ∈ indentation line) : Text.isBlank c = true :=
  List.mem_takeWhile_imp hc

/-- **An aligned row is read back** with the cells it was written from. -/
theorem cells_alignedRow (hindent : ∀ c ∈ indent, Text.isBlank c = true)
    (hlen : (cells line).length ≤ ws.length) :
    cells (alignedRow indent ws (cells line)) = cells line := by
  have hbar : ∀ p ∈ List.zipWith padCell (cells line) ws, '|' ∉ p := by
    intro p hp hc
    rcases of_mem_zipWith_padCell hp hc with h | ⟨x, hx, h⟩
    · exact absurd h (by decide)
    · exact bar_not_mem_cell hx h
  have hne : List.zipWith padCell (cells line) ws ≠ [] := by
    intro hnil
    have hcells := List.length_pos_iff.2 (cells_ne_nil line)
    have hzip := congrArg List.length hnil
    rw [List.length_zipWith, List.length_nil] at hzip
    omega
  rw [alignedRow, cells_row hindent hne hbar]
  exact map_trim_zipWith_padCell hlen fun x hx => trim_of_mem_cells hx

/-- The lines of an aligned run are rows. -/
theorem isRow_of_mem_alignedRun (h : line ∈ alignedRun run) : isRow line = true := by
  obtain ⟨row, -, rfl⟩ := List.mem_map.1 h
  exact isRow_row (fun _ hc => isBlank_of_mem_indentation hc) _

theorem alignedRun_ne_nil (h : run ≠ []) : alignedRun run ≠ [] := by
  simpa [alignedRun] using h

theorem map_cells_alignedRun (run : List Text) :
    (alignedRun run).map cells = run.map cells := by
  simp only [alignedRun, List.map_map]
  refine List.map_congr_left fun line hline => ?_
  exact cells_alignedRow (fun _ hc => isBlank_of_mem_indentation hc)
    (length_le_widths (List.mem_map_of_mem hline))

theorem indentation_alignedRun (run : List Text) :
    indentation ((alignedRun run).headD []) = indentation (run.headD []) := by
  cases run with
  | nil => rfl
  | cons line run => exact indentation_row (fun _ hc => isBlank_of_mem_indentation hc) _

/-- **A run settles at once.**  Its cells and its indentation are all that its lines are made of,
and both are read back from the written lines. -/
theorem alignedRun_idem (run : List Text) : alignedRun (alignedRun run) = alignedRun run := by
  have hcells := map_cells_alignedRun run
  have hindent := indentation_alignedRun run
  show ((alignedRun run).map cells).map _ = (run.map cells).map _
  rw [hcells, hindent]

/-! ## Runs among lines -/

/-- The lines do not go on with a row. -/
def Stops (ls : List Text) : Prop := ∀ line ∈ ls.head?, isRow line = false

theorem stops_dropWhile (ls : List Text) : Stops (ls.dropWhile isRow) := by
  intro line hline
  have h := List.head?_dropWhile_not isRow ls
  rw [hline] at h
  simpa using h

/-- A run that other lines follow is aligned by itself. -/
theorem alignLines_run (hne : run ≠ []) (hrun : ∀ l ∈ run, isRow l = true) (hstop : Stops rest) :
    alignLines (run ++ rest) = alignedRun run ++ alignLines rest := by
  cases run with
  | nil => exact absurd rfl hne
  | cons line run =>
    have hline := hrun line (List.mem_cons_self ..)
    have htail : ∀ l ∈ run, isRow l = true := fun l hl => hrun l (List.mem_cons_of_mem line hl)
    rw [List.cons_append, alignLines, if_pos hline, Text.takeWhile_stretch htail hstop,
      Text.dropWhile_stretch htail hstop]

theorem alignLines_other (h : isRow line = false) (rest : List Text) :
    alignLines (line :: rest) = line :: alignLines rest := by
  rw [alignLines, h]
  rfl

/-- Aligning turns no other line into a row. -/
theorem stops_alignLines (h : Stops ls) : Stops (alignLines ls) := by
  cases ls with
  | nil => rw [alignLines]; exact h
  | cons line rest =>
    have hline : isRow line = false := h line rfl
    rw [alignLines_other hline]
    intro l hl
    obtain rfl : line = l := Option.some.inj hl
    exact hline

/-- **Lines settle at once**, run by run. -/
theorem alignLines_idem (ls : List Text) : alignLines (alignLines ls) = alignLines ls := by
  -- the recursion of `alignLines`: a whole run, or one other line
  induction ls using alignLines.induct with
  | case1 => rw [alignLines, alignLines]
  | case2 line rest hline ih =>
    have hrun : ∀ l ∈ alignedRun (line :: rest.takeWhile isRow), isRow l = true :=
      fun l hl => isRow_of_mem_alignedRun hl
    have hne : alignedRun (line :: rest.takeWhile isRow) ≠ [] :=
      alignedRun_ne_nil (List.cons_ne_nil line _)
    -- what follows the run still does not start with a row, so the aligned run ends with it
    have hstop : Stops (alignLines (rest.dropWhile isRow)) :=
      stops_alignLines (stops_dropWhile rest)
    rw [alignLines, if_pos hline, alignLines_run hne hrun hstop, alignedRun_idem, ih]
  | case3 line rest hline ih =>
    have hline : isRow line = false := by simpa using hline
    rw [alignLines_other hline, alignLines_other hline, ih]

/-! ## Lines of a text -/

/-- A character that aligning may write for some texts: a space, a bar or one of their own. -/
def Written (ts : List Text) (c : Char) : Prop := c = ' ' ∨ c = '|' ∨ ∃ t ∈ ts, c ∈ t

theorem Written.mono {ts us : List Text} (hsub : ts ⊆ us) (h : Written ts c) : Written us c := by
  rcases h with h | h | ⟨t, ht, hc⟩
  · exact .inl h
  · exact .inr (.inl h)
  · exact .inr (.inr ⟨t, hsub ht, hc⟩)

theorem written_of_mem_row (hc : c ∈ Feature.row xs) : Written xs c := by
  have hstart : ∀ d ∈ "| ".toList, Written xs d := by simp [Written]
  have hbetween : ∀ d ∈ " | ".toList, Written xs d := by simp [Written]
  have hend : ∀ d ∈ " |".toList, Written xs d := by simp [Written]
  rcases List.mem_append.1 hc with hc | hc
  · rcases List.mem_append.1 hc with hc | hc
    · exact hstart c hc
    · rcases Text.of_mem_intercalate hc with hc | hx
      · exact hbetween c hc
      · exact .inr (.inr hx)
  · exact hend c hc

theorem written_of_mem_alignedRun (h : line ∈ alignedRun run) (hc : c ∈ line) :
    Written run c := by
  obtain ⟨row, hrow, rfl⟩ := List.mem_map.1 h
  obtain ⟨l, hl, rfl⟩ := List.mem_map.1 hrow
  rcases List.mem_append.1 hc with hindent | hc
  · -- the indentation was that of the first line
    cases run with
    | nil => exact absurd hl List.not_mem_nil
    | cons first run =>
      have hfirst : c ∈ first := (List.takeWhile_prefix _).subset hindent
      exact .inr (.inr ⟨first, List.mem_cons_self .., hfirst⟩)
  · rcases written_of_mem_row hc with hsp | hbar | ⟨p, hp, hc⟩
    · exact .inl hsp
    · exact .inr (.inl hbar)
    · rcases of_mem_zipWith_padCell hp hc with hsp | ⟨x, hx, hc⟩
      · exact .inl hsp
      · exact .inr (.inr ⟨l, hl, (of_mem_cells hx hc).1⟩)

/-- Beside spaces and bars, aligning writes only characters that the lines had. -/
theorem written_of_mem_alignLines (h : line ∈ alignLines ls) (hc : c ∈ line) : Written ls c := by
  induction ls using alignLines.induct with
  | case1 =>
    rw [alignLines] at h
    exact absurd h List.not_mem_nil
  | case2 first rest hfirst ih =>
    rw [alignLines, if_pos hfirst] at h
    rcases List.mem_append.1 h with h | h
    · have hrun : first :: rest.takeWhile isRow ⊆ first :: rest :=
        List.cons_subset_cons first (List.takeWhile_prefix _).subset
      exact (written_of_mem_alignedRun h hc).mono hrun
    · have hrest : rest.dropWhile isRow ⊆ first :: rest :=
        List.subset_cons_of_subset first (List.dropWhile_suffix _).subset
      exact (ih h).mono hrest
  | case3 first rest hfirst ih =>
    rw [alignLines_other (by simpa using hfirst)] at h
    rcases List.mem_cons.1 h with rfl | h
    · exact .inr (.inr ⟨line, List.mem_cons_self .., hc⟩)
    · exact (ih h).mono (List.subset_cons_self first rest)

theorem alignLines_ne_nil (h : ls ≠ []) : alignLines ls ≠ [] := by
  cases ls with
  | nil => exact absurd rfl h
  | cons line rest =>
    cases hline : isRow line with
    | true =>
      rw [alignLines, if_pos hline]
      exact List.append_ne_nil_of_left_ne_nil (alignedRun_ne_nil (List.cons_ne_nil line _)) _
    | false =>
      rw [alignLines_other hline]
      exact List.cons_ne_nil line _

/-- The lines of an aligned text are the aligned lines of the text. -/
theorem lines_align (t : Text) : Text.lines (align t) = alignLines (Text.lines t) := by
  refine Text.lines_unlines (alignLines_ne_nil (Text.lines_ne_nil t)) fun line hline hfeed => ?_
  rcases written_of_mem_alignLines hline hfeed with h | h | ⟨l, hl, h⟩
  · exact absurd h (by decide)
  · exact absurd h (by decide)
  · exact Text.not_mem_of_mem_lines hl h

/-- **Aligning settles at once.**  Whatever the text, aligning it a second time changes nothing. -/
theorem align_align (t : Text) : align (align t) = align t := by
  show Text.unlines (alignLines (Text.lines (align t))) = Text.unlines (alignLines (Text.lines t))
  rw [lines_align, alignLines_idem]

end Scenarist.Alignment
