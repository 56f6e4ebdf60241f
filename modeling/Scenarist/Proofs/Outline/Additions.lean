/-
  Additions — a block adds one thing at most, and nothing is edited afterwards.

  1. **What can be added (`Item`)** — a background step, a comment, a scenario, or an element of the
     last scenario.  `Adds before item after` says that this one thing is new at its place and the
     rest of the outline is as it was.

  2. **The step** — `apply_content`: a block that is no heading of level 1 to 3 changes nothing, or
     adds one item.  An element goes to the open scenario, and in a coherent state that is the last
     one.  The headings of level 1 to 3 add nothing; they say what is added where.

  3. **The run** — every block extends the outline, so all later blocks do (`extends_applyAll`): the
     items stay where they are, and only the last scenario can still get elements.  A block that adds
     nothing leaves the whole state as it is (`apply_eq_self`), so a pass goes on as if it were not
     there (`applyAll_without`).
-/
import Scenarist.Proofs.Outline.OpenScenario
import Scenarist.Proofs.Outline.Outcome

namespace Scenarist

/-- Whether a block is no heading of level 1, 2 or 3. -/
def Block.isContent : Block → Bool
  | .heading level _ => level = 0 || 3 < level
  | _ => true

namespace Extraction

/-! ## What can be added -/

/-- One thing that can be added to an outline. -/
inductive Item where
  /-- A background step. -/
  | background (text : Text)
  /-- A comment of the feature. -/
  | comment (text : Text)
  /-- A scenario that has no elements yet. -/
  | scenario (name : Text)
  /-- An element of the last scenario. -/
  | element (e : Element)
  deriving DecidableEq

/-- The second outline is the first one with one thing more at the end of its place. -/
inductive Adds : Outline → Item → Outline → Prop
  | background (o : Outline) (text : Text) :
      Adds o (.background text) { o with background := o.background ++ [text] }
  | comment (o : Outline) (text : Text) :
      Adds o (.comment text) { o with comments := o.comments ++ [text] }
  | scenario (o : Outline) (name : Text) :
      Adds o (.scenario name) { o with scenarios := o.scenarios ++ [{ name := name }] }
  | element (o : Outline) (front : List Scenario) (last : Scenario) (e : Element)
      (h : o.scenarios = front ++ [last]) :
      Adds o (.element e)
        { o with scenarios := front ++ [{ last with elements := last.elements ++ [e] }] }

/-- The second state has one item more than the first.  Only a step changes the header for bullets,
and only a new scenario changes which scenario is open. -/
structure AddsOne (s : State) (item : Item) (s' : State) : Prop where
  /-- The outline. -/
  outline : Adds s.outline item s'.outline
  /-- The title. -/
  title : s'.title = s.title
  /-- The region. -/
  recording : s'.recording = s.recording
  /-- The section. -/
  currentSection : s'.currentSection = s.currentSection
  /-- The header for bullets. -/
  tableHeader : s'.tableHeader ≠ s.tableHeader → ∃ text, item = .element (.step text)
  /-- The open scenario. -/
  active : s'.active ≠ s.active → ∃ name, item = .scenario name

variable {o : Options} {s s' : State} {a b c before after : Outline} {item : Item}

/-! ## One more block -/

theorem Adds.ne (h : Adds before item after) : after ≠ before := by
  intro heq
  cases h with
  | background text =>
    have hback := congrArg Outline.background heq
    simp at hback
  | comment text =>
    have hcomments := congrArg Outline.comments heq
    simp at hcomments
  | scenario name =>
    have hscenarios := congrArg Outline.scenarios heq
    simp at hscenarios
  | element front last e h =>
    have hscenarios := congrArg Outline.scenarios heq
    rw [h, List.append_cancel_left_eq, List.cons.injEq] at hscenarios
    have helements := congrArg Scenario.elements hscenarios.1
    simp at helements

/-- What is filed with a scenario open is one element more of the last scenario. -/
theorem addsOne_file {i : Nat} (hs : Coherent s) (hactive : s.active = some i) (e : Element) :
    AddsOne s (.element e) (s.file e) := by
  obtain ⟨front, last, hscenarios, hfile⟩ := file_of_coherent hs hactive e
  rw [hfile]
  exact ⟨.element s.outline front last e hscenarios, rfl, rfl, rfl, fun h => absurd rfl h,
    fun h => absurd rfl h⟩

/-- **The step.**  A block that is no heading of level 1 to 3 changes nothing, or adds one item. -/
theorem apply_content (hs : Coherent s) {b : Block} (hb : b.isContent = true) :
    s.apply o b = s ∨ ∃ item, AddsOne s item (s.apply o b) := by
  have hstep := step_apply o s b
  generalize s.apply o b = s' at hstep
  have hfiled : ∀ e : Element, s.file e = s ∨ ∃ item, AddsOne s item (s.file e) := by
    intro e
    cases hactive : s.active with
    | none => exact .inl (State.file_of_none e hactive)
    | some i => exact .inr ⟨.element e, addsOne_file hs hactive e⟩
  cases hstep with
  | ignored => exact .inl rfl
  | titled => cases hb
  | entered => cases hb
  | divided => cases hb
  | named text =>
    exact .inr ⟨.scenario (Text.trim text), .scenario .., rfl, rfl, rfl, fun h => absurd rfl h,
      fun _ => ⟨_, rfl⟩⟩
  | remarked content =>
    exact .inr ⟨.comment _, .comment .., rfl, rfl, rfl, fun h => absurd rfl h,
      fun h => absurd rfl h⟩
  | prepared raw =>
    exact .inr ⟨.background _, .background .., rfl, rfl, rfl, fun h => absurd rfl h,
      fun h => absurd rfl h⟩
  | commented content => exact hfiled (.comment _)
  | listed raw => exact hfiled (.bullet ..)
  | tabled rows => exact hfiled (.table _)
  | stepped raw hsection hraw hopen =>
    -- the header comes with the step: where no scenario is open, neither is there
    obtain ⟨i, hactive⟩ := exists_active hopen
    obtain ⟨houtline, htitle, hrecording, hsame, -, hopened⟩ :=
      addsOne_file hs hactive (.step (Sentence.clean raw))
    exact .inr ⟨_, houtline, htitle, hrecording, hsame, fun _ => ⟨_, rfl⟩, hopened⟩

/-- A block that is no heading of level 1 to 3 and adds nothing leaves the state as it is. -/
theorem apply_eq_self (hs : Coherent s) {b : Block} (hb : b.isContent = true)
    (h : (s.apply o b).outline = s.outline) : s.apply o b = s := by
  obtain hsame | ⟨item, hadds⟩ := apply_content (o := o) hs hb
  · exact hsame
  · exact absurd h hadds.outline.ne

/-! ## Many blocks -/

/-- The second outline goes on where the first one stops: what is there stays where it is, and only the
last scenario may have got elements. -/
structure Extends (before after : Outline) : Prop where
  /-- The title is none of what blocks add. -/
  title : after.title = before.title
  /-- The background steps. -/
  background : before.background <+: after.background
  /-- The comments. -/
  comments : before.comments <+: after.comments
  /-- The scenarios. -/
  scenarios : ∀ (k : Nat) (sc : Scenario), before.scenarios[k]? = some sc →
    ∃ more, after.scenarios[k]? = some { sc with elements := sc.elements ++ more } ∧
      (k + 1 < before.scenarios.length → more = [])

theorem Extends.refl (o : Outline) : Extends o o where
  title := rfl
  background := List.prefix_refl _
  comments := List.prefix_refl _
  scenarios := fun k sc hsc => ⟨[], by rw [List.append_nil]; exact hsc, fun _ => rfl⟩

theorem Extends.trans (hab : Extends a b) (hbc : Extends b c) : Extends a c where
  title := hbc.title.trans hab.title
  background := hab.background.trans hbc.background
  comments := hab.comments.trans hbc.comments
  scenarios := by
    intro k sc hsc
    obtain ⟨first, hb, hfirst⟩ := hab.scenarios k sc hsc
    obtain ⟨second, hc, hsecond⟩ := hbc.scenarios k _ hb
    refine ⟨first ++ second, by rw [hc, List.append_assoc], fun hk => ?_⟩
    -- a scenario that another one follows in `a` is followed by it in `b`
    obtain ⟨_, hnext, -⟩ := hab.scenarios (k + 1) _ (List.getElem?_eq_getElem hk)
    have hk' : k + 1 < b.scenarios.length := (List.getElem?_eq_some_iff.1 hnext).1
    rw [hfirst hk, hsecond hk', List.append_nil]

/-- Equal lists of scenarios, or one with more of them behind, edit no scenario. -/
theorem scenarios_of_prefix {k : Nat} {sc : Scenario} (h : before.scenarios <+: after.scenarios)
    (hsc : before.scenarios[k]? = some sc) :
    ∃ more, after.scenarios[k]? = some { sc with elements := sc.elements ++ more } ∧
      (k + 1 < before.scenarios.length → more = []) := by
  refine ⟨[], ?_, fun _ => rfl⟩
  rw [List.append_nil]
  obtain ⟨rest, hrest⟩ := h
  rw [← hrest]
  exact (List.getElem?_append_left (List.getElem?_eq_some_iff.1 hsc).1).trans hsc

theorem Adds.extends (h : Adds before item after) : Extends before after := by
  cases h with
  | background text =>
    exact ⟨rfl, List.prefix_append .., List.prefix_refl _,
      fun _ _ => scenarios_of_prefix (List.prefix_refl _)⟩
  | comment text =>
    exact ⟨rfl, List.prefix_refl _, List.prefix_append ..,
      fun _ _ => scenarios_of_prefix (List.prefix_refl _)⟩
  | scenario name =>
    exact ⟨rfl, List.prefix_refl _, List.prefix_refl _,
      fun _ _ => scenarios_of_prefix (List.prefix_append ..)⟩
  | element front last e h =>
    refine ⟨rfl, List.prefix_refl _, List.prefix_refl _, fun k sc hsc => ?_⟩
    have hlength : before.scenarios.length = front.length + 1 := by
      rw [h, List.length_append, List.length_singleton]
    have hk : k < front.length + 1 := hlength ▸ (List.getElem?_eq_some_iff.1 hsc).1
    rw [h] at hsc
    obtain hfront | rfl : k < front.length ∨ k = front.length := by omega
    · rw [List.getElem?_append_left hfront] at hsc
      refine ⟨[], ?_, fun _ => rfl⟩
      rw [List.append_nil]
      exact (List.getElem?_append_left hfront).trans hsc
    · obtain rfl : last = sc := by simpa using hsc
      refine ⟨[e], by simp, fun hlast => ?_⟩
      omega

/-- A heading of level 1 to 3 says what the next blocks are added to, and adds nothing itself. -/
theorem outline_apply_heading {b : Block} (hb : b.isContent = false) :
    (s.apply o b).outline = s.outline := by
  have hstep := step_apply o s b
  generalize s.apply o b = s' at hstep
  cases hstep with
  | ignored => rfl
  | titled => rfl
  | entered => rfl
  | divided => rfl
  | _ => cases hb

/-- **The step.**  A block extends the outline. -/
theorem extends_apply (hs : Coherent s) (b : Block) : Extends s.outline (s.apply o b).outline := by
  cases hb : b.isContent with
  | false =>
    rw [outline_apply_heading hb]
    exact .refl _
  | true =>
    obtain hsame | ⟨item, hadds⟩ := apply_content (o := o) hs hb
    · rw [hsame]
      exact .refl _
    · exact hadds.outline.extends

/-- **The run.**  All later blocks extend the outline. -/
theorem extends_applyAll (hs : Coherent s) (blocks : List Block) :
    Extends s.outline (s.applyAll o blocks).outline := by
  induction blocks generalizing s with
  | nil => exact .refl _
  | cons b blocks ih => exact (extends_apply hs b).trans (ih (coherent_apply hs b))

/-- A block that changes nothing may be left out of a pass. -/
theorem applyAll_without {before : List Block} {b : Block}
    (h : (s.applyAll o before).apply o b = s.applyAll o before) (more : List Block) :
    s.applyAll o (before ++ b :: more) = s.applyAll o (before ++ more) := by
  rw [applyAll_append, applyAll_append]
  show ((s.applyAll o before).apply o b).applyAll o more = _
  rw [h]

/-- **A block adds one thing at most, and nothing is edited.**  After any blocks, one more that is no
heading of level 1 to 3 leaves the whole state as it is, or adds one item to the outline, where only a
step changes the header for bullets and only a new scenario is opened.  A level-1 heading changes only
the title, one of level 2 or 3 only the region, the section and the open scenario.  So later blocks
extend the outline.  Such a block that adds nothing changes nothing, and a block that changes nothing
may be left out: the pass ends in the same state, and the run comes to the same unless no block is
left, which is a failure of its own. -/
theorem blocks_add_once (o : Options) (blocks : List Block) :
    let s := (State.initial o).applyAll o blocks
    (∀ b : Block, b.isContent = true →
      s.apply o b = s ∨ ∃ item, AddsOne s item (s.apply o b)) ∧
    (∀ text, ∃ title, s.apply o (.heading 1 text) = { s with title := title }) ∧
    (∀ level text, level = 2 ∨ level = 3 → ∃ recording currentSection active,
      s.apply o (.heading level text)
        = { s with recording := recording, currentSection := currentSection, active := active }) ∧
    (∀ more, Extends s.outline (s.applyAll o more).outline) ∧
    (∀ b : Block, b.isContent = true → (s.apply o b).outline = s.outline → s.apply o b = s) ∧
    (∀ b more, s.apply o b = s →
      (State.initial o).applyAll o (blocks ++ b :: more)
        = (State.initial o).applyAll o (blocks ++ more) ∧
      (blocks ++ more ≠ [] →
        runNormalized o (blocks ++ b :: more) = runNormalized o (blocks ++ more))) := by
  intro s
  have hs : Coherent s := coherent_applyAll (coherent_initial o) blocks
  refine ⟨fun b hb => apply_content hs hb, fun text => ⟨_, rfl⟩, fun level text hlevel => ?_,
    extends_applyAll hs, fun b hb hsame => apply_eq_self hs hb hsame, fun b more hsame => ?_⟩
  · obtain rfl | rfl := hlevel
    · exact ⟨_, _, _, rfl⟩
    · show ∃ recording currentSection active, (if s.recording then _ else s) = _
      by_cases hrecording : s.recording = true
      · exact ⟨s.recording, _, _, if_pos hrecording⟩
      · exact ⟨s.recording, s.currentSection, s.active, if_neg hrecording⟩
  · have hstate : (State.initial o).applyAll o (blocks ++ b :: more)
        = (State.initial o).applyAll o (blocks ++ more) := applyAll_without hsame more
    refine ⟨hstate, fun hleft => ?_⟩
    have hblocks : (blocks ++ b :: more).isEmpty = false := by simp
    have hleft : (blocks ++ more).isEmpty = false := by simpa using hleft
    rw [runNormalized, runNormalized, hstate, hblocks, hleft]

end Extraction

end Scenarist
