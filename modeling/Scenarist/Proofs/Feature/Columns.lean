/-
  Columns — where the bars of aligned rows stand, and how far a run of rows reaches.

  1. **Widths** — every cell of a row of a run fits into its column (`fits_widths`).

  2. **Bars** — an aligned row has its bars where its columns end, and nowhere else (`bars_row`).  So
     the rows of one run have their bars at the same places, as far as each of them goes
     (`bars_alignedRun`).

  3. **Runs apart** — a line that is no row cuts the work of aligning in two
     (`alignLines_append_other`), so that a whole run is aligned by itself (`WholeRun.alignLines_eq`).
     Rows without such a line between them are in one run, whatever comes before and after
     (`bars_alignLines`).
-/
import Mathlib.Data.List.Induction
import Scenarist.Proofs.Feature.LineContent

namespace Scenarist.Alignment

variable {c : Char} {line : Text} {indent : Text} {row : List Text} {rows : List (List Text)}
  {ns ws : List Nat} {run rest ls before after : List Text}

/-! ## Widths -/

/-- Whether columns of some widths hold cells of the given lengths. -/
def Fits : List Nat → List Nat → Prop
  | [], _ => True
  | _ :: _, [] => False
  | n :: ns, w :: ws => n ≤ w ∧ Fits ns ws

theorem fits_widen_right (ws : List Nat) : ∀ ns : List Nat, Fits ns (widen ws ns) := by
  induction ws with
  | nil =>
    intro ns
    induction ns with
    | nil => trivial
    | cons n ns ih =>
      rw [widen] at ih ⊢
      exact ⟨Nat.le_refl n, ih⟩
  | cons w ws ih =>
    intro ns
    cases ns with
    | nil => trivial
    | cons n ns =>
      rw [widen]
      exact ⟨Nat.le_max_right w n, ih ns⟩

theorem fits_widen_left (h : Fits ns ws) (ms : List Nat) : Fits ns (widen ws ms) := by
  induction ns generalizing ws ms with
  | nil => trivial
  | cons n ns ih =>
    cases ws with
    | nil => cases h
    | cons w ws =>
      obtain ⟨hn, hns⟩ := h
      cases ms with
      | nil => exact ⟨hn, hns⟩
      | cons m ms =>
        rw [widen]
        exact ⟨Nat.le_trans hn (Nat.le_max_left w m), ih hns ms⟩

/-- The columns of some rows hold the cells of each. -/
theorem fits_widths (hrow : row ∈ rows) : Fits (row.map List.length) (widths rows) := by
  -- columns get no narrower from one row to the next
  have hfold : ∀ (rows : List (List Text)) (ws : List Nat),
      (∀ ns, Fits ns ws →
        Fits ns (rows.foldl (fun ws row => widen ws (row.map List.length)) ws)) ∧
      ∀ row ∈ rows, Fits (row.map List.length)
        (rows.foldl (fun ws row => widen ws (row.map List.length)) ws) := by
    intro rows
    induction rows with
    | nil =>
      intro ws
      exact ⟨fun ns h => h, fun row h => nomatch h⟩
    | cons first rows ih =>
      intro ws
      obtain ⟨hkept, hrest⟩ := ih (widen ws (first.map List.length))
      refine ⟨fun ns h => hkept ns (fits_widen_left h _), fun row hrow => ?_⟩
      rcases List.mem_cons.1 hrow with rfl | hrow
      · exact hkept _ (fits_widen_right ws _)
      · exact hrest row hrow
  exact (hfold rows []).2 row hrow

theorem Fits.length_le (h : Fits ns ws) : ns.length ≤ ws.length := by
  induction ns generalizing ws with
  | nil => exact Nat.zero_le _
  | cons n ns ih =>
    cases ws with
    | nil => cases h
    | cons w ws => exact Nat.succ_le_succ (ih h.2)

theorem length_padCell {cell : Text} {w : Nat} (h : cell.length ≤ w) :
    (padCell cell w).length = w := by
  rw [padCell, List.length_append, List.length_replicate]
  omega

/-- Filled up, the cells of a row are as wide as its columns. -/
theorem map_length_zipWith_padCell (h : Fits (row.map List.length) ws) :
    (List.zipWith padCell row ws).map List.length = ws.take row.length := by
  induction row generalizing ws with
  | nil => rfl
  | cons x row ih =>
    cases ws with
    | nil => cases h
    | cons w ws =>
      obtain ⟨hx, hrow⟩ := h
      rw [List.zipWith_cons_cons, List.map_cons, length_padCell hx, ih hrow]
      rfl

theorem zipWith_padCell_ne_nil (hne : row ≠ []) (h : Fits (row.map List.length) ws) :
    List.zipWith padCell row ws ≠ [] := by
  intro hnil
  have hrow := List.length_pos_iff.2 hne
  have hle := h.length_le
  have hzip := congrArg List.length hnil
  rw [List.length_map] at hle
  rw [List.length_zipWith, List.length_nil] at hzip
  omega

/-- Filling cells up puts no bar in them. -/
theorem bar_not_mem_zipWith_padCell (hbar : ∀ x ∈ row, '|' ∉ x) :
    ∀ p ∈ List.zipWith padCell row ws, '|' ∉ p := by
  intro p hp hc
  rcases of_mem_zipWith_padCell hp hc with h | ⟨x, hx, h⟩
  · exact absurd h (by decide)
  · exact hbar x hx h

/-! ## Bars -/

/-- Where the bars of a line stand, the line itself starting at `place`. -/
def barsFrom (place : Nat) : Text → List Nat
  | [] => []
  | c :: t => if c = '|' then place :: barsFrom (place + 1) t else barsFrom (place + 1) t

/-- Where the bars of a line stand. -/
def bars (line : Text) : List Nat := barsFrom 0 line

theorem barsFrom_append (s t : Text) : ∀ place : Nat,
    barsFrom place (s ++ t) = barsFrom place s ++ barsFrom (place + s.length) t := by
  induction s with
  | nil =>
    intro place
    rfl
  | cons c s ih =>
    intro place
    have hplace : place + (c :: s).length = place + 1 + s.length := by
      rw [List.length_cons]
      omega
    rw [List.cons_append, barsFrom, barsFrom, ih, hplace]
    split
    · rfl
    · rfl

theorem barsFrom_eq_nil {t : Text} (h : '|' ∉ t) : ∀ place : Nat, barsFrom place t = [] := by
  induction t with
  | nil =>
    intro place
    rfl
  | cons c t ih =>
    intro place
    obtain ⟨hc, ht⟩ : '|' ≠ c ∧ '|' ∉ t := by simpa using h
    rw [barsFrom, if_neg (Ne.symm hc), ih ht]

/-- Where columns end whose cells are that wide, the first of them starting at `place`. -/
def columnEnds (place : Nat) : List Nat → List Nat
  | [] => []
  | w :: ws => (place + w + 2) :: columnEnds (place + w + 3) ws

theorem columnEnds_take (k : Nat) (ws : List Nat) : ∀ place : Nat,
    columnEnds place (ws.take k) <+: columnEnds place ws := by
  induction ws generalizing k with
  | nil =>
    intro place
    have hnone : columnEnds place (([] : List Nat).take k) = columnEnds place [] :=
      congrArg (columnEnds place) List.take_nil
    exact hnone ▸ List.prefix_refl _
  | cons w ws ih =>
    intro place
    cases k with
    | zero => exact List.nil_prefix
    | succ k => exact List.prefix_cons_inj _ |>.2 (ih k _)

/-- A row is a bar, and each cell with a space on both sides and a bar behind it. -/
theorem row_eq_flatMap {xs : List Text} (hne : xs ≠ []) :
    Feature.row xs = '|' :: xs.flatMap fun x => spaced x ++ ['|'] := by
  have hinner : inner xs ++ ['|'] = xs.flatMap fun x => spaced x ++ ['|'] := by
    induction xs with
    | nil => exact absurd rfl hne
    | cons x xs ih =>
      cases xs with
      | nil => simp [inner]
      | cons y ys =>
        have hrest := ih (List.cons_ne_nil y ys)
        rw [List.flatMap_cons, ← hrest]
        simp [inner]
  rw [row_eq hne, List.cons_append, hinner]

theorem length_spaced (x : Text) : (spaced x).length = x.length + 2 := by
  simp [spaced]

/-- The bars behind cells stand where their columns end. -/
theorem barsFrom_cells (xs : List Text) (hbar : ∀ x ∈ xs, '|' ∉ x) : ∀ place : Nat,
    barsFrom place (xs.flatMap fun x => spaced x ++ ['|'])
      = columnEnds place (xs.map List.length) := by
  induction xs with
  | nil =>
    intro place
    rfl
  | cons x xs ih =>
    intro place
    have hx : '|' ∉ spaced x := by simpa [spaced] using hbar x (List.mem_cons_self ..)
    have hrest := ih (fun y hy => hbar y (List.mem_cons_of_mem x hy)) (place + x.length + 3)
    rw [List.flatMap_cons, List.append_assoc, barsFrom_append, barsFrom_eq_nil hx, length_spaced,
      List.nil_append, List.singleton_append, barsFrom, if_pos rfl, ← Nat.add_assoc, List.map_cons,
      columnEnds, ← hrest]

/-- **The bars of a row** stand in front of its cells and behind each of them. -/
theorem bars_row (hindent : '|' ∉ indent) {xs : List Text} (hne : xs ≠ [])
    (hbar : ∀ x ∈ xs, '|' ∉ x) :
    bars (indent ++ Feature.row xs)
      = indent.length :: columnEnds (indent.length + 1) (xs.map List.length) := by
  rw [bars, barsFrom_append, barsFrom_eq_nil hindent, List.nil_append, Nat.zero_add,
    row_eq_flatMap hne, barsFrom, if_pos rfl, barsFrom_cells xs hbar]

/-- **The rows of a run share their columns**: the bars of each stand at the first of some places that
are the same for all. -/
theorem bars_alignedRun (run : List Text) :
    ∃ places, ∀ line ∈ alignedRun run, bars line <+: places := by
  let indent := indentation (run.headD [])
  let ws := widths (run.map cells)
  refine ⟨indent.length :: columnEnds (indent.length + 1) ws, fun line hline => ?_⟩
  obtain ⟨row, hrow, rfl⟩ := List.mem_map.1 hline
  have hfits : Fits (row.map List.length) ws := fits_widths hrow
  obtain ⟨source, -, rfl⟩ := List.mem_map.1 hrow
  have hindent : '|' ∉ indent := by
    intro hc
    exact absurd (isBlank_of_mem_indentation hc) (by decide)
  have hbar : ∀ p ∈ List.zipWith padCell (cells source) ws, '|' ∉ p :=
    bar_not_mem_zipWith_padCell fun x hx => bar_not_mem_cell hx
  have hne : List.zipWith padCell (cells source) ws ≠ [] :=
    zipWith_padCell_ne_nil (cells_ne_nil source) hfits
  show bars (indent ++ Feature.row (List.zipWith padCell (cells source) ws)) <+: _
  rw [bars_row hindent hne hbar, map_length_zipWith_padCell hfits]
  exact (List.prefix_cons_inj _).2 (columnEnds_take _ ws _)

/-! ## Runs apart -/

/-- A line that is no row cuts aligning in two. -/
theorem alignLines_append_other (h : isRow line = false) (before after : List Text) :
    alignLines (before ++ line :: after) = alignLines before ++ line :: alignLines after := by
  induction before using alignLines.induct with
  | case1 => rw [List.nil_append, alignLines_other h, alignLines, List.nil_append]
  | case2 first rest hfirst ih =>
    have hrun : ∀ l ∈ first :: rest.takeWhile isRow, isRow l = true := by
      intro l hl
      rcases List.mem_cons.1 hl with rfl | hl
      · exact hfirst
      · exact List.mem_takeWhile_imp hl
    have hsplit : first :: rest = (first :: rest.takeWhile isRow) ++ rest.dropWhile isRow := by
      rw [List.cons_append, List.takeWhile_append_dropWhile]
    have hne : first :: rest.takeWhile isRow ≠ [] := List.cons_ne_nil _ _
    -- the run ends before the line, if not earlier
    have hstop : Stops (rest.dropWhile isRow ++ line :: after) := by
      intro l hl
      cases hdrop : rest.dropWhile isRow with
      | nil =>
        rw [hdrop] at hl
        obtain rfl : line = l := Option.some.inj hl
        exact h
      | cons other more =>
        have hstops := stops_dropWhile rest
        rw [hdrop] at hl hstops
        exact hstops l hl
    rw [hsplit, List.append_assoc, alignLines_run hne hrun hstop, ih,
      alignLines_run hne hrun (stops_dropWhile rest), List.append_assoc]
  | case3 first rest hfirst ih =>
    have hfirst : isRow first = false := by simpa using hfirst
    rw [List.cons_append, alignLines_other hfirst, ih, alignLines_other hfirst, List.cons_append]

/-- Lines without a row cut aligning in two as well. -/
theorem alignLines_append_others {others : List Text} (h : ∀ l ∈ others, isRow l = false)
    (hne : others ≠ []) (before after : List Text) :
    alignLines (before ++ others ++ after) = alignLines before ++ others ++ alignLines after := by
  induction others generalizing before with
  | nil => exact absurd rfl hne
  | cons line others ih =>
    have hline := h line (List.mem_cons_self ..)
    rw [List.append_assoc, List.cons_append, alignLines_append_other hline]
    cases others with
    | nil => simp
    | cons next others =>
      have hrest := ih (fun l hl => h l (List.mem_cons_of_mem line hl)) (List.cons_ne_nil _ _) []
      rw [alignLines] at hrest
      simpa using hrest

/-- Lines are aligned apart from those before them unless rows meet at the cut. -/
theorem alignLines_append
    (h : ∀ a ∈ before.getLast?, ∀ b ∈ after.head?, isRow a = false ∨ isRow b = false) :
    alignLines (before ++ after) = alignLines before ++ alignLines after := by
  have hnil : alignLines [] = [] := by rw [alignLines]
  rcases List.eq_nil_or_concat before with rfl | ⟨init, a, rfl⟩
  · rw [List.nil_append, hnil, List.nil_append]
  · cases after with
    | nil => rw [List.append_nil, hnil, List.append_nil]
    | cons b more =>
      rw [List.concat_eq_append] at h ⊢
      rcases h a (by simp) b rfl with ha | hb
      · have hinit : alignLines (init ++ [a]) = alignLines init ++ [a] := by
          rw [alignLines_append_other ha, hnil]
        rw [hinit, List.append_assoc, List.append_assoc, List.singleton_append, List.singleton_append,
          alignLines_append_other ha]
      · rw [alignLines_append_other hb, alignLines_other hb]

/-- A maximal run of rows among lines. -/
structure WholeRun (before run after : List Text) : Prop where
  /-- There is a row. -/
  nonempty : run ≠ []
  /-- There is nothing else. -/
  rows : ∀ l ∈ run, isRow l = true
  /-- No row stands right before it. -/
  starts : ∀ l ∈ before.getLast?, isRow l = false
  /-- No row stands right after it. -/
  ends : Stops after

/-- **A whole run is aligned by itself.** -/
theorem WholeRun.alignLines_eq (h : WholeRun before run after) :
    alignLines (before ++ run ++ after) = alignLines before ++ alignedRun run ++ alignLines after := by
  have hrest : alignLines (run ++ after) = alignedRun run ++ alignLines after :=
    alignLines_run h.nonempty h.rows h.ends
  rw [List.append_assoc, alignLines_append fun a ha _ _ => .inl (h.starts a ha), hrest,
    List.append_assoc]

/-- If all rows have one indentation, aligned rows have it too. -/
theorem indentation_alignLines (hls : ∀ l ∈ ls, isRow l = true → indentation l = indent)
    (hmem : line ∈ alignLines ls) (hline : isRow line = true) : indentation line = indent := by
  induction ls using alignLines.induct with
  | case1 =>
    rw [alignLines] at hmem
    cases hmem
  | case2 first rest hfirst ih =>
    rw [alignLines, if_pos hfirst] at hmem
    rcases List.mem_append.1 hmem with hmem | hmem
    · obtain ⟨row, -, rfl⟩ := List.mem_map.1 hmem
      have hhead : indentation first = indent := hls first (List.mem_cons_self ..) hfirst
      rw [← hhead]
      exact indentation_row (fun _ hc => isBlank_of_mem_indentation hc) _
    · refine ih (fun l hl => hls l ?_) hmem
      exact List.mem_cons_of_mem first ((List.dropWhile_suffix _).subset hl)
  | case3 first rest hfirst ih =>
    rw [alignLines_other (by simpa using hfirst)] at hmem
    rcases List.mem_cons.1 hmem with rfl | hmem
    · exact hls line (List.mem_cons_self ..) hline
    · exact ih (fun l hl => hls l (List.mem_cons_of_mem first hl)) hmem

theorem length_alignedRun (run : List Text) : (alignedRun run).length = run.length := by
  simp [alignedRun]

/-- Lines up to the last one that is no row, and the rows behind it. -/
theorem exists_last_rows (ls : List Text) : ∃ front rows, ls = front ++ rows ∧
    (∀ l ∈ rows, isRow l = true) ∧
    ∀ more, alignLines (front ++ more) = alignLines front ++ alignLines more := by
  induction ls using List.reverseRecOn with
  | nil => exact ⟨[], [], rfl, fun l hl => (nomatch hl), fun more => by rw [alignLines]; rfl⟩
  | append_singleton ls line ih =>
    cases hline : isRow line with
    | true =>
      obtain ⟨front, rows, rfl, hrows, hcut⟩ := ih
      refine ⟨front, rows ++ [line], List.append_assoc .., fun l hl => ?_, hcut⟩
      rcases List.mem_append.1 hl with hl | hl
      · exact hrows l hl
      · rw [List.mem_singleton.1 hl]
        exact hline
    | false =>
      refine ⟨ls ++ [line], [], (List.append_nil _).symm, fun l hl => (nomatch hl), fun more => ?_⟩
      refine alignLines_append fun a ha _ _ => .inl ?_
      obtain rfl : line = a := by simpa using ha
      exact hline

/-- **Rows that stand one after the other share their columns**, whatever comes before and after. -/
theorem bars_alignLines (hne : run ≠ []) (hrun : ∀ l ∈ run, isRow l = true)
    (before after : List Text) :
    ∃ places, ∀ k line, before.length ≤ k → k < before.length + run.length →
      (alignLines (before ++ run ++ after))[k]? = some line → bars line <+: places := by
  obtain ⟨front, rows, rfl, hrows, hcut⟩ := exists_last_rows before
  -- the rows around are in the same run
  let whole := rows ++ run ++ after.takeWhile isRow
  have hwhole : ∀ l ∈ whole, isRow l = true := by
    intro l hl
    rcases List.mem_append.1 hl with hl | hl
    · rcases List.mem_append.1 hl with hl | hl
      · exact hrows l hl
      · exact hrun l hl
    · exact List.mem_takeWhile_imp hl
  have hwhole_ne : whole ≠ [] := by
    simp [whole, hne]
  have hsplit : front ++ rows ++ run ++ after
      = front ++ (whole ++ after.dropWhile isRow) := by
    simp only [whole, List.append_assoc, List.takeWhile_append_dropWhile]
  have hlines : alignLines (front ++ rows ++ run ++ after)
      = alignLines front ++ (alignedRun whole ++ alignLines (after.dropWhile isRow)) := by
    rw [hsplit, hcut, alignLines_run hwhole_ne hwhole (stops_dropWhile after)]
  obtain ⟨places, hplaces⟩ := bars_alignedRun whole
  refine ⟨places, fun k line hfirst hlast hk => hplaces line ?_⟩
  have hlength : whole.length = rows.length + run.length + (after.takeWhile isRow).length := by
    simp only [whole, List.length_append]
  rw [List.length_append] at hfirst hlast
  rw [hlines, List.getElem?_append_right (by rw [length_alignLines]; omega), length_alignLines,
    List.getElem?_append_left (by rw [length_alignedRun]; omega)] at hk
  exact List.mem_of_getElem? hk

end Scenarist.Alignment
