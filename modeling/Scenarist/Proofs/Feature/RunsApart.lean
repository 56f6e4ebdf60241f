/-
  Runs apart — no run of rows has a say in how another is aligned.

  1. **One sweep.**  Aligning can be done line by line.  A `Sweep` keeps the rows of the run that is open and
     the indentation that it met last, and writes the run when another line comes or the text ends.  The
     indentation is never put back, so what it is after a run depends on that run.

  2. **One line.**  `Sweep.target` says what a sweep will have written once some more lines have come, by
     aligning them together with the open run.  A line that comes in moves from there into the sweep and
     changes nothing (`target_step`).

  3. **All lines.**  So a sweep writes what aligning all lines at once gives (`finish_eq`), whatever
     indentation it starts with.

  4. **Cuts.**  Where no two rows meet, a text can be cut: both parts are aligned by themselves, and a sweep
     that comes to the cut goes on behind it like a new one (`align_cut`).
-/
import Scenarist.Proofs.Feature.Columns

namespace Scenarist.Alignment

/-! ## One sweep -/

/-- What is kept on the way through some lines. -/
structure Sweep where
  /-- The lines that are written. -/
  written : List Text := []
  /-- The rows of the run that is open. -/
  openRun : List Text := []
  /-- The indentation of the run that was met last. -/
  indent : Text := []

namespace Sweep

/-- The open run is written, in the indentation at hand. -/
def flush (s : Sweep) : Sweep :=
  let rows := s.openRun.map cells
  { s with written := s.written ++ rows.map (alignedRow s.indent (widths rows)), openRun := [] }

/-- A row joins the open run, and the first one brings the indentation; any other line ends the run. -/
def step (s : Sweep) (line : Text) : Sweep :=
  if isRow line then
    { s with
      openRun := s.openRun ++ [line]
      indent := if s.openRun.isEmpty then indentation line else s.indent }
  else { s.flush with written := s.flush.written ++ [line] }

/-- The lines that are written once some more lines have come and the text has ended. -/
def finish (s : Sweep) (ls : List Text) : List Text := (ls.foldl step s).flush.written

/-- What a sweep keeps up about the open run. -/
structure Coherent (s : Sweep) : Prop where
  /-- It has rows only. -/
  rows : ∀ l ∈ s.openRun, isRow l = true
  /-- The indentation is that of its first row. -/
  indent : s.openRun ≠ [] → s.indent = indentation (s.openRun.headD [])

/-- What a sweep will have written once some more lines have come. -/
def target (s : Sweep) (ls : List Text) : List Text := s.written ++ alignLines (s.openRun ++ ls)

variable {s : Sweep}

/-! ## One line -/

theorem coherent_of_openRun (h : s.openRun = []) : Coherent s where
  rows := by
    rw [h]
    exact List.forall_mem_nil _
  indent := fun hne => absurd h hne

/-- Writing the open run is aligning it. -/
theorem written_flush (hs : Coherent s) : s.flush.written = s.target [] := by
  rw [target, List.append_nil]
  show s.written ++ (s.openRun.map cells).map (alignedRow s.indent (widths (s.openRun.map cells))) = _
  by_cases hopen : s.openRun = []
  · rw [hopen, alignLines]
    rfl
  · have hrun : alignLines s.openRun = alignedRun s.openRun := by
      have hstop : Stops [] := fun line hline => absurd hline (Option.not_mem_none line)
      have hwhole := alignLines_run hopen hs.rows hstop
      rwa [List.append_nil, alignLines, List.append_nil] at hwhole
    rw [hrun, hs.indent hopen]
    rfl

theorem coherent_step (hs : Coherent s) (line : Text) : Coherent (s.step line) := by
  cases hline : isRow line with
  | true =>
    rw [step, if_pos hline]
    refine ⟨fun l hl => ?_, fun _ => ?_⟩
    · rcases List.mem_append.1 hl with hl | hl
      · exact hs.rows l hl
      · rw [List.mem_singleton.1 hl]
        exact hline
    · cases hopen : s.openRun with
      | nil => rfl
      | cons first rows =>
        have hindent := hs.indent (by rw [hopen]; exact List.cons_ne_nil _ _)
        rw [hopen] at hindent
        exact hindent
  | false =>
    rw [step, hline]
    exact coherent_of_openRun rfl

/-- **One line.**  It makes no difference to what will be written whether a line is still to come or has
come. -/
theorem target_step (hs : Coherent s) (line : Text) (ls : List Text) :
    (s.step line).target ls = s.target (line :: ls) := by
  cases hline : isRow line with
  | true =>
    rw [step, if_pos hline]
    show s.written ++ alignLines (s.openRun ++ [line] ++ ls) = _
    rw [List.append_assoc, List.singleton_append, target]
  | false =>
    rw [step, hline]
    show s.flush.written ++ [line] ++ alignLines ls = _
    rw [written_flush hs, target, target, List.append_nil, alignLines_append_other hline]
    simp only [List.append_assoc, List.singleton_append]

/-! ## All lines -/

/-- **All lines.**  A sweep writes what it is going to write. -/
theorem finish_eq (hs : Coherent s) (ls : List Text) : s.finish ls = s.target ls := by
  induction ls generalizing s with
  | nil => exact written_flush hs
  | cons line ls ih =>
    rw [← target_step hs]
    exact ih (coherent_step hs line)

/-- With no run open, a sweep aligns what comes; the indentation it brings along does not matter. -/
theorem finish_of_openRun (h : s.openRun = []) (ls : List Text) :
    s.finish ls = s.written ++ alignLines ls := by
  rw [finish_eq (coherent_of_openRun h), target, h, List.nil_append]

end Sweep

/-! ## Cuts -/

/-- No two rows meet where one text ends and the next begins. -/
def CutsRuns (a b : Text) : Prop :=
  isRow ((Text.lines a).getLast (Text.lines_ne_nil a)) = false ∨
    isRow ((Text.lines b).head (Text.lines_ne_nil b)) = false

instance (a b : Text) : Decidable (CutsRuns a b) := inferInstanceAs (Decidable (_ ∨ _))

/-- The lines of two texts that are cut like that are aligned in two parts. -/
theorem alignLines_cut {a b : Text} (h : CutsRuns a b) :
    alignLines (Text.lines a ++ Text.lines b) = alignLines (Text.lines a) ++ alignLines (Text.lines b) := by
  refine alignLines_append fun last hlast first hfirst => ?_
  rw [List.getLast?_eq_some_getLast (Text.lines_ne_nil a)] at hlast
  rw [List.head?_eq_some_head (Text.lines_ne_nil b)] at hfirst
  obtain rfl := Option.some.inj hlast
  obtain rfl := Option.some.inj hfirst
  exact h

/-- **Runs are aligned apart.**  Let the last line of one text or the first line of another be no row.  Put
together line after line, they are aligned as each of them is by itself.  And a sweep that has come to the
cut, with whatever it has kept of the first text, writes for the second what a new one writes. -/
theorem align_cut (a b : Text) (h : CutsRuns a b) :
    align (a ++ '\n' :: b) = align a ++ '\n' :: align b ∧
    ((Text.lines a).foldl Sweep.step {}).finish (Text.lines b)
      = Sweep.finish {} (Text.lines a) ++ Sweep.finish {} (Text.lines b) := by
  have hlines := alignLines_cut h
  constructor
  · have ha := alignLines_ne_nil (Text.lines_ne_nil a)
    have hb := alignLines_ne_nil (Text.lines_ne_nil b)
    rw [align, Text.lines_append_feed, hlines, Text.unlines_append ha hb, align, align]
  · have hnew : ∀ ls, Sweep.finish {} ls = alignLines ls := Sweep.finish_of_openRun rfl
    have hboth : ((Text.lines a).foldl Sweep.step {}).finish (Text.lines b)
        = Sweep.finish {} (Text.lines a ++ Text.lines b) := by
      rw [Sweep.finish, Sweep.finish, List.foldl_append]
    rw [hboth, hnew, hnew, hnew, hlines]

/-- Two runs with a line between them, in columns and indentations of their own. -/
theorem align_cut_twoRuns :
    let a := "    | a | b |\n  | long cell | c |".toList
    let b := "  And then\n\t| x |\n| yy |".toList
    CutsRuns a b ∧ align (a ++ '\n' :: b)
      = "    | a         | b |\n    | long cell | c |\n  And then\n\t| x  |\n\t| yy |".toList := by
  intro a b
  have hcut : CutsRuns a b := by decide +kernel
  exact ⟨hcut, (align_cut a b hcut).1.trans (by decide +kernel)⟩

/-- Where two rows meet, they share their columns. -/
example : align "| a |\n| bb |".toList ≠ align "| a |".toList ++ '\n' :: align "| bb |".toList := by
  decide +kernel

end Scenarist.Alignment
