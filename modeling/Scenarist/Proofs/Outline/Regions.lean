/-
  Regions — what one part of a page leaves to the next.

  1. **One pass after another** — `base.followedBy s` is where a pass stands that has come to `s`
     with the outline of `base` already behind it: the two outlines one after the other, the place of
     `s`, and the title of `s` if it has one.

  2. **The step** — `apply_followedBy`: a block does the same with and without an outline behind the
     pass.  It only adds at the ends of the outline or changes the open scenario, whose place is
     moved by the scenarios of `base`; it never looks at what was collected before.

  3. **The run** — by induction on the blocks, and `apply_regionHeading`: a level-2 heading closes
     the section and the scenario, so after it the title and the header for bullets are all that is
     left of the state before it.
-/
import Scenarist.Proofs.Outline.Outcome

namespace Scenarist.Extraction

/-- The state `s`, come to with the outline of `base` already there. -/
def State.followedBy (base s : State) : State where
  outline :=
    { title := base.outline.title
      background := base.outline.background ++ s.outline.background
      scenarios := base.outline.scenarios ++ s.outline.scenarios
      comments := base.outline.comments ++ s.outline.comments }
  title := s.title.or base.title
  recording := s.recording
  currentSection := s.currentSection
  active := s.active.map (base.outline.scenarios.length + ·)
  tableHeader := s.tableHeader

/-! ## Filing -/

theorem activeScenario_followedBy (base s : State) :
    (base.followedBy s).activeScenario = s.activeScenario := by
  unfold State.activeScenario State.followedBy
  cases s.active with
  | none => rfl
  | some i =>
    show (base.outline.scenarios ++ s.outline.scenarios)[base.outline.scenarios.length + i]? = _
    rw [List.getElem?_append_right (Nat.le_add_right ..), Nat.add_sub_cancel_left]
    rfl

theorem file_followedBy (base s : State) (e : Element) :
    (base.followedBy s).file e = base.followedBy (s.file e) := by
  cases hactive : s.active with
  | none =>
    have hclosed : (base.followedBy s).active = none := by simp [State.followedBy, hactive]
    rw [State.file_of_none e hactive, State.file_of_none e hclosed]
  | some i =>
    have hopen : (base.followedBy s).active = some (base.outline.scenarios.length + i) := by
      simp [State.followedBy, hactive]
    -- the scenarios of `base` come first, and the open one is not among them
    rw [State.file_of_some e hactive, State.file_of_some e hopen]
    simp [State.followedBy, modify_append_right]

/-! ## One more block -/

theorem applyHeading_followedBy (o : Options) (base s : State) (level : Nat) (text : Text) :
    (base.followedBy s).applyHeading o level text = base.followedBy (s.applyHeading o level text) := by
  unfold State.applyHeading
  split
  · rfl
  · rfl
  · show (if s.recording then _ else _) = _
    by_cases hr : s.recording = true
    · rw [if_pos hr, if_pos hr]
      rfl
    · rw [if_neg hr, if_neg hr]
  · show (if s.recording && s.currentSection == .scenarios then _ else _) = _
    by_cases h : (s.recording && s.currentSection == .scenarios) = true
    · rw [if_pos h, if_pos h]
      simp [State.followedBy]
    · rw [if_neg h, if_neg h]
  · rfl

/-- **The step.**  What a block does is the same after another outline. -/
theorem apply_followedBy (o : Options) (base s : State) (b : Block) :
    (base.followedBy s).apply o b = base.followedBy (s.apply o b) := by
  have hopen := activeScenario_followedBy base s
  have hrecording : (base.followedBy s).recording = s.recording := rfl
  have hsection : (base.followedBy s).currentSection = s.currentSection := rfl
  cases b with
  | heading level text => exact applyHeading_followedBy o base s level text
  | quote content =>
    show (base.followedBy s).applyQuote content = base.followedBy (s.applyQuote content)
    unfold State.applyQuote
    dsimp only
    rw [hopen]
    split
    · exact file_followedBy base s _
    · simp [State.followedBy]
  | paragraph raw =>
    show (base.followedBy s).applyParagraph o raw = base.followedBy (s.applyParagraph o raw)
    unfold State.applyParagraph
    dsimp only
    rw [hopen, hsection]
    split
    · simp [State.followedBy]
    · split
      · rw [file_followedBy]
        rfl
      · rfl
    · rfl
  | bullet raw =>
    show (base.followedBy s).applyBullet raw = base.followedBy (s.applyBullet raw)
    unfold State.applyBullet
    dsimp only
    rw [hsection]
    split
    · exact file_followedBy base s _
    · rfl
  | table rows =>
    show (base.followedBy s).applyTable rows = base.followedBy (s.applyTable rows)
    unfold State.applyTable
    dsimp only
    rw [hrecording, hsection]
    split
    · exact file_followedBy base s _
    · rfl

theorem applyAll_followedBy (o : Options) (base s : State) (blocks : List Block) :
    (base.followedBy s).applyAll o blocks = base.followedBy (s.applyAll o blocks) := by
  induction blocks generalizing s with
  | nil => rfl
  | cons b blocks ih =>
    show ((base.followedBy s).apply o b).applyAll o blocks = _
    rw [apply_followedBy]
    exact ih (s.apply o b)

/-! ## Regions -/

/-- The state before the first block, but for the header. -/
def State.fresh (o : Options) (header : Text) : State :=
  { State.initial o with tableHeader := header }

/-- A level-2 heading leaves of the state before it the outline, the title and the header. -/
theorem apply_regionHeading (o : Options) (s : State) (text : Text) :
    s.apply o (.heading 2 text)
      = s.followedBy ((State.fresh o s.tableHeader).apply o (.heading 2 text)) := by
  simp [State.apply, State.applyHeading, State.followedBy, State.fresh, State.initial]

/-- **Regions compose.**  Over the blocks `a` and then `b`, which starts with a level-2 heading, a pass
collects what it collects over `a`, and after it what it collects over `b` from a fresh state that knows
the header left by `a`.  It comes to stand where that second pass does, the open scenario counted from
the scenarios of `a`; the title is the last one of `b`, and the one of `a` where `b` has none.  So the
title and the header are all that one region leaves to the next. -/
theorem regions_compose (o : Options) (a rest : List Block) (text : Text) :
    let b := .heading 2 text :: rest
    let first := (State.initial o).applyAll o a
    let second := (State.fresh o first.tableHeader).applyAll o b
    let both := (State.initial o).applyAll o (a ++ b)
    both.outline.background = first.outline.background ++ second.outline.background ∧
    both.outline.scenarios = first.outline.scenarios ++ second.outline.scenarios ∧
    both.outline.comments = first.outline.comments ++ second.outline.comments ∧
    both.recording = second.recording ∧
    both.currentSection = second.currentSection ∧
    both.active = second.active.map (first.outline.scenarios.length + ·) ∧
    both.tableHeader = second.tableHeader ∧
    both.title = ((lastTitle? b).or (lastTitle? a)).map Text.trim := by
  intro b first second both
  have hboth : both = first.followedBy second := by
    calc both = first.applyAll o b := applyAll_append o _ a b
      _ = (first.apply o (.heading 2 text)).applyAll o rest := rfl
      _ = first.followedBy second := by rw [apply_regionHeading, applyAll_followedBy]; rfl
  have htitle : both.title = ((lastTitle? b).or (lastTitle? a)).map Text.trim := by
    rw [← lastTitle?_append]
    exact (title_applyAll o _ _).trans (Option.or_none ..)
  rw [hboth] at htitle ⊢
  exact ⟨rfl, rfl, rfl, rfl, rfl, rfl, rfl, htitle⟩

end Scenarist.Extraction
