/-
  Steps — everything that one block can do to the state of a pass.

  `Step o s b s'` lists the ways in which block `b` takes state `s` to state `s'`, each with the guard
  under which it happens.  `step_apply` says that there are no others, so an invariant of the pass
  needs one short case for each of them and never opens the pass itself.  What holds of one block
  holds of all by `applyAll_preserves`.
-/
import Scenarist.Proofs.Outline.Filing

namespace Scenarist.Extraction

/-- The ways in which a block takes one state to the next. -/
inductive Step (o : Options) (s : State) : Block → State → Prop where
  /-- The block counts for nothing where it stands. -/
  | ignored (b : Block) : Step o s b s
  /-- A level-1 heading is the title so far. -/
  | titled (text : Text) : Step o s (.heading 1 text) { s with title := some (Text.trim text) }
  /-- A level-2 heading opens or closes a feature region. -/
  | entered (text : Text) :
      Step o s (.heading 2 text)
        { s with
          recording := o.featureHeadings.contains (normalName text)
          currentSection := .none
          active := none }
  /-- A level-3 heading of a feature region opens a section. -/
  | divided (text : Text) (hr : s.recording = true) :
      Step o s (.heading 3 text)
        { s with currentSection := State.sectionOf o (normalName text), active := none }
  /-- A level-4 heading of a scenarios section opens a scenario. -/
  | named (text : Text) (hr : s.recording = true) (hs : s.currentSection = .scenarios) :
      Step o s (.heading 4 text)
        { s with
          outline := { s.outline with
            scenarios := s.outline.scenarios ++ [{ name := Text.trim text }] }
          active := some s.outline.scenarios.length }
  /-- A quote outside scenarios is a comment of the feature. -/
  | remarked (content : RichText) (h : s.activeScenario = none) :
      Step o s (.quote content)
        { s with outline := { s.outline with
            comments := s.outline.comments ++ [Text.indent 2 (RichText.flatten content)] } }
  /-- A quote inside a scenario is a comment of it. -/
  | commented (content : RichText) (h : s.activeScenario.isSome = true) :
      Step o s (.quote content) (s.file (.comment (RichText.flatten content)))
  /-- A paragraph of a background section is a background step. -/
  | prepared (raw : Text) (hs : s.currentSection = .background) :
      Step o s (.paragraph raw)
        { s with outline := { s.outline with
            background := s.outline.background ++ [Sentence.clean raw] } }
  /-- A step of the open scenario brings the header for the bullets after it. -/
  | stepped (raw : Text) (hs : s.currentSection = .scenarios)
      (hstep : Sentence.isStep (Sentence.clean raw) = true)
      (h : s.activeScenario.isSome = true) :
      Step o s (.paragraph raw)
        { s.file (.step (Sentence.clean raw)) with
          tableHeader := Sentence.headerOf (Sentence.clean raw) o.defaultTableHeader }
  /-- A bullet of a scenarios section is filed under the header in force. -/
  | listed (raw : Text) (hs : s.currentSection = .scenarios) (hne : Text.trim raw ≠ []) :
      Step o s (.bullet raw) (s.file (.bullet s.tableHeader (Text.trim raw)))
  /-- A table of a scenarios section is filed if it has a cell. -/
  | tabled (rows : List (List Text)) (hr : s.recording = true) (hs : s.currentSection = .scenarios)
      (hne : (Table.ofRows rows).isEmpty = false) :
      Step o s (.table rows) (s.file (.table (Table.ofRows rows)))

variable {o : Options} {s : State}

theorem step_applyHeading (o : Options) (s : State) (level : Nat) (text : Text) :
    Step o s (.heading level text) (s.applyHeading o level text) := by
  unfold State.applyHeading
  split
  · exact .titled text
  · exact .entered text
  · split
    · next hr => exact .divided text hr
    · exact .ignored _
  · split
    · next h =>
      obtain ⟨hr, hs⟩ : s.recording = true ∧ s.currentSection = .scenarios := by simpa using h
      exact .named text hr hs
    · exact .ignored _
  · exact .ignored _

/-- **The step.**  What a block does is in the list. -/
theorem step_apply (o : Options) (s : State) (b : Block) : Step o s b (s.apply o b) := by
  cases b with
  | heading level text => exact step_applyHeading o s level text
  | quote content =>
    show Step o s _ (s.applyQuote content)
    unfold State.applyQuote
    dsimp only
    split
    · next h => exact .commented content h
    · next h => exact .remarked content (by simpa using h)
  | paragraph raw =>
    show Step o s _ (s.applyParagraph o raw)
    unfold State.applyParagraph
    dsimp only
    split
    · next hs => exact .prepared raw hs
    · next hs =>
      split
      · next h =>
        obtain ⟨hstep, hopen⟩ := Bool.and_eq_true_iff.1 h
        exact .stepped raw hs hstep hopen
      · exact .ignored _
    · exact .ignored _
  | bullet raw =>
    show Step o s _ (s.applyBullet raw)
    unfold State.applyBullet
    dsimp only
    split
    · next h =>
      obtain ⟨hne, hs⟩ : Text.trim raw ≠ [] ∧ s.currentSection = .scenarios := by simpa using h
      exact .listed raw hs hne
    · exact .ignored _
  | table rows =>
    show Step o s _ (s.applyTable rows)
    unfold State.applyTable
    dsimp only
    split
    · next h =>
      obtain ⟨⟨hr, hne⟩, hs⟩ :
          (s.recording = true ∧ (Table.ofRows rows).isEmpty = false)
            ∧ s.currentSection = .scenarios := by simpa using h
      exact .tabled rows hr hs hne
    · exact .ignored _

/-- **The run.**  What every block keeps up holds after all of them. -/
theorem applyAll_preserves {P : State → Prop} (hstep : ∀ s b, P s → P (s.apply o b)) (hs : P s)
    (blocks : List Block) : P (s.applyAll o blocks) := by
  induction blocks generalizing s with
  | nil => exact hs
  | cons b blocks ih => exact ih (hstep s b hs)

end Scenarist.Extraction
