/-
  Outcomes — what a run gives, read off its last state.

  1. **The last title** — `lastTitle?` looks back over a page for its last level-1 heading.  A pass has
     that heading as the title of its state, whatever the other blocks do (`title_applyAll`).

  2. **The run** — a run gives the outline of its last state with that title filled in, and no outline
     when there is no such heading (`toOption_run`, `run_eq_ok_iff`).  The empty page is no case of its
     own here: it has no heading either.
-/
import Scenarist.Proofs.Outline.Places
import Scenarist.Proofs.Outline.Steps

namespace Scenarist.Extraction

variable {o : Options} {s : State} {blocks : List Block} {text : Text}

/-! ## The last title -/

theorem headingText?_eq_none_iff {level : Nat} {b : Block} :
    headingText? level b = none ↔ ∀ t, b ≠ .heading level t := by
  rw [Option.eq_none_iff_forall_ne_some]
  exact forall_congr' fun t => not_congr headingText?_eq_some

/-- The text of the last level-1 heading. -/
def lastTitle? (blocks : List Block) : Option Text := blocks.reverse.findSome? (headingText? 1)

theorem lastTitle?_append (a b : List Block) :
    lastTitle? (a ++ b) = (lastTitle? b).or (lastTitle? a) := by
  unfold lastTitle?
  rw [List.reverse_append, List.findSome?_append]

theorem lastTitle?_cons (b : Block) (rest : List Block) :
    lastTitle? (b :: rest) = (lastTitle? rest).or (headingText? 1 b) := by
  have hone : lastTitle? [b] = headingText? 1 b := by
    cases h : headingText? 1 b <;> simp [lastTitle?, h]
  rw [← List.singleton_append, lastTitle?_append, hone]

/-- The last title is a level-1 heading after which no other stands. -/
theorem lastTitle?_eq_some_iff :
    lastTitle? blocks = some text ↔
      ∃ before after, blocks = before ++ .heading 1 text :: after ∧ ∀ t, .heading 1 t ∉ after := by
  unfold lastTitle?
  rw [List.findSome?_eq_some_iff]
  constructor
  · rintro ⟨after, b, before, hblocks, hb, hafter⟩
    refine ⟨before.reverse, after.reverse, ?_, fun t ht => ?_⟩
    · rw [← headingText?_eq_some.1 hb, ← List.reverse_reverse blocks, hblocks]
      simp
    · exact headingText?_eq_none_iff.1 (hafter _ (List.mem_reverse.1 ht)) t rfl
  · rintro ⟨before, after, rfl, hafter⟩
    refine ⟨after.reverse, .heading 1 text, before.reverse, by simp, headingText?_eq_some.2 rfl, ?_⟩
    rintro b hb
    refine headingText?_eq_none_iff.2 ?_
    rintro t rfl
    exact hafter t (List.mem_reverse.1 hb)

theorem lastTitle?_eq_none_iff : lastTitle? blocks = none ↔ ∀ text, .heading 1 text ∉ blocks := by
  unfold lastTitle?
  rw [List.findSome?_eq_none_iff]
  simp only [headingText?_eq_none_iff, List.mem_reverse]
  exact ⟨fun h text hmem => h _ hmem text rfl, fun h b hb text heq => h text (heq ▸ hb)⟩

/-! ## The title of a pass -/

/-- A block that is no heading leaves the title as it is. -/
theorem title_of_step {b : Block} {s' : State} (hb : ∀ level t, b ≠ .heading level t)
    (hstep : Step o s b s') : s'.title = s.title := by
  cases hstep with
  | ignored => rfl
  | titled text => exact absurd rfl (hb 1 text)
  | entered text => exact absurd rfl (hb 2 text)
  | divided text => exact absurd rfl (hb 3 text)
  | named text => exact absurd rfl (hb 4 text)
  | remarked => rfl
  | prepared => rfl
  | commented => exact State.file_title s _
  | stepped => exact State.file_title s _
  | listed => exact State.file_title s _
  | tabled => exact State.file_title s _

/-- A level-1 heading is the title from there on; no other block touches the title. -/
theorem title_apply (o : Options) (s : State) (b : Block) :
    (s.apply o b).title = ((headingText? 1 b).map Text.trim).or s.title := by
  by_cases hb : ∃ level t, b = .heading level t
  · obtain ⟨level, t, rfl⟩ := hb
    show (s.applyHeading o level t).title = _
    unfold State.applyHeading
    split
    · rfl
    · rfl
    · split <;> rfl
    · split <;> rfl
    · next h1 _ _ _ => rw [headingText?, if_neg h1]; rfl
  · have hother : ∀ level t, b ≠ .heading level t := fun level t h => hb ⟨level, t, h⟩
    have hnone : headingText? 1 b = none := headingText?_eq_none_iff.2 (hother 1)
    rw [title_of_step hother (step_apply o s b), hnone]
    rfl

/-- **The title of a pass is the last level-1 heading**, or the title that it started with. -/
theorem title_applyAll (o : Options) (s : State) (blocks : List Block) :
    (s.applyAll o blocks).title = ((lastTitle? blocks).map Text.trim).or s.title := by
  induction blocks generalizing s with
  | nil => rfl
  | cons b rest ih =>
    show ((s.apply o b).applyAll o rest).title = _
    rw [ih, title_apply, lastTitle?_cons]
    cases lastTitle? rest <;> rfl

/-! ## The run -/

theorem applyAll_append (o : Options) (s : State) (a b : List Block) :
    s.applyAll o (a ++ b) = (s.applyAll o a).applyAll o b := List.foldl_append

/-- The state of a pass at the end of a page. -/
def lastState (o : Options) (blocks : List Block) : State := (State.initial o).applyAll o blocks

theorem toOption_run (o : Options) (blocks : List Block) :
    (run o blocks).toOption = (lastState o.normalized blocks).finish := by
  unfold run runNormalized
  split
  · next hempty =>
    rw [List.isEmpty_iff] at hempty
    subst hempty
    rfl
  · unfold lastState
    cases ((State.initial o.normalized).applyAll o.normalized blocks).finish <;> rfl

theorem finish_lastState (o : Options) (blocks : List Block) :
    (lastState o blocks).finish
      = (lastTitle? blocks).map fun text =>
          { (lastState o blocks).outline with title := Text.trim text } := by
  have htitle : (lastState o blocks).title = (lastTitle? blocks).map Text.trim :=
    (title_applyAll o (State.initial o) blocks).trans (Option.or_none ..)
  unfold State.finish
  rw [htitle, Option.map_map]
  rfl

theorem toOption_run_eq_some_iff {outline : Outline} :
    (run o blocks).toOption = some outline ↔ run o blocks = .ok outline := by
  cases run o blocks <;> simp [Except.toOption]

/-- **The run.**  A page gives the outline of its last state under its last title. -/
theorem run_eq_ok_iff {outline : Outline} :
    run o blocks = .ok outline ↔
      ∃ text, lastTitle? blocks = some text ∧
        { (lastState o.normalized blocks).outline with title := Text.trim text } = outline := by
  rw [← toOption_run_eq_some_iff, toOption_run, finish_lastState, Option.map_eq_some_iff]

end Scenarist.Extraction
