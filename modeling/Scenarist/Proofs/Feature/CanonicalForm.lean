/-
  Canonical form — which texts are aligned to the same text.

  1. **What is kept** — `SameTables` lists it: the number of lines, which of them are rows, the other
     lines, the cells of rows, and the indentation of the first row of each run.

  2. **Kept, so read back** — the lines are read back from the aligned text with what they say, and the
     first row of a run with its indentation (`indentation_startsRun`).  So texts that are aligned to
     the same text agree in all of that (`sameTables_of_alignLines`).

  3. **Nothing else matters** — a run is written from its cells and the indentation of its first row
     (`alignedRun_congr`).  By the recursion of `alignLines`, run by run on both sides, texts that agree
     in what is kept are aligned to the same text (`alignLines_congr`).
-/
import Scenarist.Proofs.Feature.ColumnLayout

namespace Scenarist.Alignment

variable {line other : Text} {run run' ls ms rest before after : List Text} {k : Nat}

/-! ## What is kept -/

/-- Whether a line is the first row of a run. -/
def StartsRun (ls : List Text) (k : Nat) : Prop :=
  (∃ line, ls[k]? = some line ∧ isRow line = true) ∧
    ∀ line ∈ (ls.take k).getLast?, isRow line = false

/-- What two lists of lines agree in, line by line, if they are aligned alike. -/
structure SameTables (ls ms : List Text) : Prop where
  /-- There are equally many lines. -/
  length : ls.length = ms.length
  /-- The same of them are rows. -/
  rows : ∀ (k : Nat) line other, ls[k]? = some line → ms[k]? = some other → isRow line = isRow other
  /-- All others are the same. -/
  others : ∀ (k : Nat) line other, ls[k]? = some line → ms[k]? = some other →
    isRow line = false → line = other
  /-- Rows have the same cells. -/
  cells : ∀ (k : Nat) line other, ls[k]? = some line → ms[k]? = some other →
    isRow line = true → cells line = cells other
  /-- Runs start with the same indentation. -/
  indents : ∀ (k : Nat) line other, ls[k]? = some line → ms[k]? = some other →
    StartsRun ls k → indentation line = indentation other

theorem isRow_eq_isLeft (line : Text) : isRow line = (content line).isLeft := by
  unfold content
  split
  · next h => rw [h]; rfl
  · next h => simpa using h

theorem content_eq_iff : content line = content other ↔
    isRow line = isRow other ∧ (isRow line = false → line = other) ∧
      (isRow line = true → cells line = cells other) := by
  constructor
  · intro h
    have hrow : isRow line = isRow other := by rw [isRow_eq_isLeft, h, isRow_eq_isLeft]
    refine ⟨hrow, fun hline => ?_, fun hline => ?_⟩
    · unfold content at h
      rw [← hrow, hline] at h
      exact Sum.inr.inj h
    · rw [content_row hline, content_row (hrow ▸ hline)] at h
      exact Sum.inl.inj h
  · rintro ⟨hrow, hother, hcells⟩
    cases hline : isRow line with
    | true => rw [content_row hline, content_row (hrow ▸ hline), hcells hline]
    | false => rw [hother hline]

/-- Lines that agree in what they say have it at the same places. -/
theorem content_eq_of_map (h : ls.map content = ms.map content) (hl : ls[k]? = some line)
    (hm : ms[k]? = some other) : content line = content other := by
  have hk := congrArg (fun cs => cs[k]?) h
  simp only [List.getElem?_map, hl, hm, Option.map_some] at hk
  exact Option.some.inj hk

/-- All but the indentations is what the lines say. -/
theorem SameTables.map_content (h : SameTables ls ms) : ls.map content = ms.map content := by
  refine List.ext_getElem (by simpa using h.length) fun k hl hm => ?_
  rw [List.length_map] at hl hm
  have hline := List.getElem?_eq_getElem hl
  have hother := List.getElem?_eq_getElem hm
  rw [List.getElem_map, List.getElem_map, content_eq_iff]
  exact ⟨h.rows k _ _ hline hother, h.others k _ _ hline hother, h.cells k _ _ hline hother⟩

/-! ## First rows of runs -/

/-- A run starts where it started, whatever is put in front, unless a row now stands right before. -/
theorem StartsRun.behind (h : StartsRun after k)
    (hcut : ∀ a ∈ before.getLast?, isRow a = false ∨ Stops after) :
    StartsRun (before ++ after) (before.length + k) := by
  obtain ⟨⟨line, hline, hrow⟩, hfirst⟩ := h
  refine ⟨⟨line, ?_, hrow⟩, fun l hl => ?_⟩
  · rw [List.getElem?_append_right (Nat.le_add_right _ k), Nat.add_sub_cancel_left]
    exact hline
  · rw [List.take_length_add_append, List.getLast?_append] at hl
    cases hlast : (after.take k).getLast? with
    | some b =>
      rw [hlast] at hl
      obtain rfl : b = l := Option.some.inj hl
      exact hfirst b hlast
    | none =>
      rw [hlast] at hl
      -- nothing stands before the row, so it is the first line behind the cut
      have hhead : line ∈ after.head? := by
        have hnil : after.take k = [] := List.getLast?_eq_none_iff.1 hlast
        cases after with
        | nil => cases hline
        | cons b more =>
          cases k with
          | zero => exact hline
          | succ k => cases hnil
      rcases hcut l hl with hl | hstop
      · exact hl
      · rw [hstop line hhead] at hrow
        cases hrow

/-- Which rows are first depends on which lines are rows. -/
theorem StartsRun.congr (h : StartsRun ls k) (hcontent : ls.map content = ms.map content) :
    StartsRun ms k := by
  have hrows : ls.map isRow = ms.map isRow := by
    have hleft := congrArg (List.map Sum.isLeft) hcontent
    simpa [Function.comp_def, ← isRow_eq_isLeft] using hleft
  obtain ⟨⟨line, hline, hrow⟩, hfirst⟩ := h
  constructor
  · have hk : (ms.map isRow)[k]? = some true := by
      rw [← hrows, List.getElem?_map, hline, Option.map_some, hrow]
    rw [List.getElem?_map] at hk
    exact Option.map_eq_some_iff.1 hk
  · intro other hother
    have hlast : ((ls.map isRow).take k).getLast? = some (isRow other) := by
      rw [hrows, ← List.map_take, List.getLast?_map, hother, Option.map_some]
    rw [← List.map_take, List.getLast?_map] at hlast
    obtain ⟨l, hl, hsame⟩ := Option.map_eq_some_iff.1 hlast
    rw [← hsame]
    exact hfirst l hl

/-- The run that starts at a line. -/
theorem StartsRun.exists_wholeRun (h : StartsRun ls k) (hk : ls[k]? = some line) :
    ∃ run after, ls = ls.take k ++ run ++ after ∧ WholeRun (ls.take k) run after ∧
      run[0]? = some line := by
  obtain ⟨⟨first, hfirst, hrow⟩, hstarts⟩ := h
  obtain rfl : line = first := Option.some.inj (hk.symm.trans hfirst)
  obtain ⟨hlt, hget⟩ := List.getElem?_eq_some_iff.1 hk
  have hdrop : ls.drop k = line :: ls.drop (k + 1) := by
    rw [List.drop_eq_getElem_cons hlt, hget]
  have hrun : (ls.drop k).takeWhile isRow = line :: (ls.drop (k + 1)).takeWhile isRow := by
    rw [hdrop, List.takeWhile_cons_of_pos hrow]
  refine ⟨(ls.drop k).takeWhile isRow, (ls.drop k).dropWhile isRow, ?_, ⟨?_, ?_, hstarts, ?_⟩, ?_⟩
  · rw [List.append_assoc, List.takeWhile_append_dropWhile, List.take_append_drop]
  · rw [hrun]
    exact List.cons_ne_nil _ _
  · exact fun l hl => List.mem_takeWhile_imp hl
  · exact stops_dropWhile _
  · rw [hrun]
    rfl

/-- **A run keeps the indentation of its first row.** -/
theorem indentation_startsRun (h : StartsRun ls k) (hk : ls[k]? = some line) :
    ∃ aligned, (alignLines ls)[k]? = some aligned ∧ indentation aligned = indentation line := by
  obtain ⟨run, after, hsplit, hrun, hfirst⟩ := h.exists_wholeRun hk
  have hlength : (ls.take k).length + 0 = k := by
    have hlt := (List.getElem?_eq_some_iff.1 hk).1
    rw [List.length_take]
    omega
  have haligned := getElem?_alignLines_run hrun hfirst
  rw [← hsplit, hlength] at haligned
  have hhead : run.headD [] = line := by
    cases run with
    | nil => cases hfirst
    | cons first run => exact Option.some.inj hfirst
  refine ⟨_, haligned, ?_⟩
  rw [← hhead]
  exact indentation_row (fun _ hc => isBlank_of_mem_indentation hc) _

/-- **What is kept is read back** from the aligned lines. -/
theorem sameTables_of_alignLines (h : alignLines ls = alignLines ms) : SameTables ls ms := by
  have hcontent : ls.map content = ms.map content := by
    rw [← map_content_alignLines ls, h, map_content_alignLines]
  have hlines : ∀ (k : Nat) line other, ls[k]? = some line → ms[k]? = some other →
      content line = content other := fun k line other => content_eq_of_map hcontent
  constructor
  · simpa using congrArg List.length hcontent
  · intro k line other hl hm
    exact (content_eq_iff.1 (hlines k line other hl hm)).1
  · intro k line other hl hm
    exact (content_eq_iff.1 (hlines k line other hl hm)).2.1
  · intro k line other hl hm
    exact (content_eq_iff.1 (hlines k line other hl hm)).2.2
  · intro k line other hl hm hstarts
    obtain ⟨aligned, hk, hline⟩ := indentation_startsRun hstarts hl
    obtain ⟨aligned', hk', hother⟩ := indentation_startsRun (hstarts.congr hcontent) hm
    rw [h, hk'] at hk
    obtain rfl : aligned' = aligned := Option.some.inj hk
    rw [← hline, ← hother]

/-! ## Nothing else matters -/

theorem map_cells_of_map_content (hrun : ∀ l ∈ run, isRow l = true)
    (hrun' : ∀ l ∈ run', isRow l = true) (h : run.map content = run'.map content) :
    run.map cells = run'.map cells := by
  have hinl : ∀ ls : List Text, (∀ l ∈ ls, isRow l = true) →
      ls.map content = (ls.map cells).map .inl := by
    intro ls hls
    rw [List.map_map]
    exact List.map_congr_left fun l hl => content_row (hls l hl)
  rw [hinl run hrun, hinl run' hrun'] at h
  exact List.map_injective_iff.2 Sum.inl_injective h

/-- A run is written from its cells and the indentation of its first row. -/
theorem alignedRun_congr (hcells : run.map cells = run'.map cells)
    (hindent : indentation (run.headD []) = indentation (run'.headD [])) :
    alignedRun run = alignedRun run' := by
  unfold alignedRun
  rw [hcells, hindent]

theorem takeWhile_content (ls : List Text) :
    (ls.takeWhile isRow).map content = (ls.map content).takeWhile Sum.isLeft := by
  rw [List.takeWhile_map]
  congr 2
  funext line
  exact isRow_eq_isLeft line

theorem dropWhile_content (ls : List Text) :
    (ls.dropWhile isRow).map content = (ls.map content).dropWhile Sum.isLeft := by
  rw [List.dropWhile_map]
  congr 2
  funext line
  exact isRow_eq_isLeft line

/-- **Lines that agree in what is kept are aligned alike.** -/
theorem alignLines_congr (hcontent : ls.map content = ms.map content)
    (hindents : ∀ (k : Nat) line other, ls[k]? = some line → ms[k]? = some other → StartsRun ls k →
      indentation line = indentation other) : alignLines ls = alignLines ms := by
  -- the recursion of `alignLines` on one side: the other side has a run or another line there too
  induction ls using alignLines.induct generalizing ms with
  | case1 =>
    obtain rfl : ms = [] := List.map_eq_nil_iff.1 hcontent.symm
    rfl
  | case2 line rest hline ih =>
    obtain ⟨other, rest', rfl, hother, hrest⟩ := List.map_eq_cons_iff.1 hcontent.symm
    have hrow : isRow other = true := by rw [isRow_eq_isLeft, hother, ← isRow_eq_isLeft, hline]
    let run := line :: rest.takeWhile isRow
    let run' := other :: rest'.takeWhile isRow
    have hall : ∀ l ∈ run, isRow l = true :=
      List.forall_mem_cons.2 ⟨hline, fun l hl => List.mem_takeWhile_imp hl⟩
    have hall' : ∀ l ∈ run', isRow l = true :=
      List.forall_mem_cons.2 ⟨hrow, fun l hl => List.mem_takeWhile_imp hl⟩
    have hruns : run.map content = run'.map content := by
      rw [List.map_cons, List.map_cons, hother, takeWhile_content, takeWhile_content, hrest]
    have hlength : run.length = run'.length := by simpa using congrArg List.length hruns
    have hsplit : line :: rest = run ++ rest.dropWhile isRow := by
      rw [List.cons_append, List.takeWhile_append_dropWhile]
    have hsplit' : other :: rest' = run' ++ rest'.dropWhile isRow := by
      rw [List.cons_append, List.takeWhile_append_dropWhile]
    have hfirst : indentation line = indentation other := by
      refine hindents 0 line other rfl rfl ⟨⟨line, rfl, hline⟩, fun l hl => ?_⟩
      cases hl
    have hhere : alignedRun run = alignedRun run' :=
      alignedRun_congr (map_cells_of_map_content hall hall' hruns) hfirst
    have hbehind : alignLines (rest.dropWhile isRow) = alignLines (rest'.dropWhile isRow) := by
      refine ih (by rw [dropWhile_content, dropWhile_content, hrest]) fun k l m hl hm hstarts => ?_
      refine hindents (run.length + k) l m ?_ ?_ ?_
      · rw [hsplit, List.getElem?_append_right (Nat.le_add_right _ k), Nat.add_sub_cancel_left]
        exact hl
      · rw [hsplit', hlength, List.getElem?_append_right (Nat.le_add_right _ k),
          Nat.add_sub_cancel_left]
        exact hm
      · rw [hsplit]
        exact hstarts.behind fun _ _ => .inr (stops_dropWhile rest)
    rw [alignLines, if_pos hline, alignLines, if_pos hrow, hbehind]
    exact congrArg (· ++ _) hhere
  | case3 line rest hline ih =>
    have hline : isRow line = false := by simpa using hline
    obtain ⟨other, rest', rfl, hother, hrest⟩ := List.map_eq_cons_iff.1 hcontent.symm
    obtain rfl : line = other := (content_eq_iff.1 hother.symm).2.1 hline
    have hbehind : alignLines rest = alignLines rest' := by
      refine ih hrest.symm fun k l m hl hm hstarts => hindents (k + 1) l m hl hm ?_
      have hshift : StartsRun ([line] ++ rest) ([line].length + k) := by
        refine hstarts.behind fun a ha => ?_
        obtain rfl : line = a := Option.some.inj ha
        exact .inl hline
      rw [List.length_singleton, Nat.add_comm] at hshift
      exact hshift
    rw [alignLines_other hline, alignLines_other hline, hbehind]

/-- **Aligning is a canonical form.**  Two texts are aligned to the same text if and only if they have
equally many lines, the same lines are rows, all other lines are equal, rows have equal cells, and the
first rows of runs have equal indentation. -/
theorem align_eq_iff (t u : Text) :
    align t = align u ↔ SameTables (Text.lines t) (Text.lines u) := by
  constructor
  · intro h
    apply sameTables_of_alignLines
    rw [← lines_align, h, lines_align]
  · intro h
    show Text.unlines (alignLines (Text.lines t)) = Text.unlines (alignLines (Text.lines u))
    rw [alignLines_congr h.map_content h.indents]

/-- Blanks inside of rows, and the indentation of all rows but the first, are not kept. -/
example : align " |a|\n|  bb |".toList = align " | a |\n\t|bb|".toList := by decide +kernel

end Scenarist.Alignment
