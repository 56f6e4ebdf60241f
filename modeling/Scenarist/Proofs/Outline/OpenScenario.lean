/-
  The open scenario — what holds of every state that a pass can reach.

  1. **The invariant (`Coherent`)** — a section is open only in a feature region, a scenario only in
     a scenarios section, and the open scenario is the last one of the outline.  The three facts
     stand in three fields of the state, and headings of different levels write them: a level-2
     heading closes what a level-3 heading has opened, and both close what a level-4 heading has.

  2. **The step** — `coherent_apply`, one case for each thing that a block can do; and
     `getElem?_scenarios_apply`: a scenario that a block changes is the open one.

  3. **The run** — by induction on the blocks every state is coherent, so the open scenario is always
     there.  A scenario that another one follows is never open again, so no block that comes later
     changes it (`reachable_coherent`).
-/
import Scenarist.Proofs.Outline.Steps

namespace Scenarist.Extraction

/-- What a pass keeps up about the place it has come to. -/
structure Coherent (s : State) : Prop where
  /-- A section is part of a feature region. -/
  recording_of_section : s.currentSection ≠ .none → s.recording = true
  /-- A scenario is part of a scenarios section. -/
  section_of_active : ∀ i, s.active = some i → s.recording = true ∧ s.currentSection = .scenarios
  /-- The open scenario is the last one. -/
  last_of_active : ∀ i, s.active = some i → i + 1 = s.outline.scenarios.length

variable {o : Options} {s : State} {i k : Nat}

/-! ## One more block -/

theorem coherent_initial (o : Options) : Coherent (State.initial o) where
  recording_of_section := by intro h; exact absurd rfl h
  section_of_active := by nofun
  last_of_active := by nofun

/-- A state without an open scenario is coherent if its section lies in a feature region. -/
theorem coherent_of_closed (h : s.currentSection ≠ .none → s.recording = true)
    (hactive : s.active = none) : Coherent s where
  recording_of_section := h
  section_of_active := by intro i hi; rw [hactive] at hi; cases hi
  last_of_active := by intro i hi; rw [hactive] at hi; cases hi

/-- Filing keeps a state coherent: it opens nothing and closes nothing. -/
theorem coherent_file (hs : Coherent s) (e : Element) : Coherent (s.file e) where
  recording_of_section := by
    rw [State.file_currentSection, State.file_recording]
    exact hs.recording_of_section
  section_of_active := by
    rw [State.file_active, State.file_recording, State.file_currentSection]
    exact hs.section_of_active
  last_of_active := by
    rw [State.file_active, State.length_scenarios_file]
    exact hs.last_of_active

theorem exists_active (h : s.activeScenario.isSome = true) : ∃ i, s.active = some i := by
  obtain ⟨sc, hsc⟩ := Option.isSome_iff_exists.1 h
  obtain ⟨i, hi, -⟩ := Option.bind_eq_some_iff.1 hsc
  exact ⟨i, hi⟩

/-- What is filed with a scenario open is added to the last one. -/
theorem file_of_coherent (hs : Coherent s) (hactive : s.active = some i) (e : Element) :
    ∃ front last, s.outline.scenarios = front ++ [last] ∧
      s.file e = { s with outline := { s.outline with
        scenarios := front ++ [{ last with elements := last.elements ++ [e] }] } } := by
  have hlast := hs.last_of_active i hactive
  obtain ⟨front, last, hscenarios⟩ : ∃ front last, s.outline.scenarios = front ++ [last] := by
    rcases List.eq_nil_or_concat s.outline.scenarios with hnil | ⟨front, last, h⟩
    · rw [hnil] at hlast
      cases hlast
    · exact ⟨front, last, by rw [h, List.concat_eq_append]⟩
  have hi : i = front.length := by
    rw [hscenarios, List.length_append, List.length_singleton] at hlast
    omega
  refine ⟨front, last, hscenarios, ?_⟩
  rw [State.file_of_some e hactive, hscenarios, hi, modify_length]

/-- **The step.** -/
theorem coherent_apply (hs : Coherent s) (b : Block) : Coherent (s.apply o b) := by
  have hstep := step_apply o s b
  generalize s.apply o b = s' at hstep
  cases hstep with
  | ignored => exact hs
  | titled => exact ⟨hs.1, hs.2, hs.3⟩
  | entered => exact coherent_of_closed (by intro h; exact absurd rfl h) rfl
  | divided text hr => exact coherent_of_closed (fun _ => hr) rfl
  | named text hr hsec =>
    -- the scenario that opens stands where the others end
    refine ⟨fun _ => hr, fun i _ => ⟨hr, hsec⟩, fun i hi => ?_⟩
    obtain rfl : s.outline.scenarios.length = i := by simpa using hi
    rw [List.length_append, List.length_singleton]
  | remarked => exact ⟨hs.1, hs.2, hs.3⟩
  | prepared => exact ⟨hs.1, hs.2, hs.3⟩
  | commented => exact coherent_file hs _
  | stepped raw =>
    have hfile := coherent_file hs (.step (Sentence.clean raw))
    exact ⟨hfile.1, hfile.2, hfile.3⟩
  | listed => exact coherent_file hs _
  | tabled => exact coherent_file hs _

/-- A scenario that a block changes is the open one. -/
theorem getElem?_scenarios_apply (o : Options) (b : Block) (hk : k < s.outline.scenarios.length)
    (h : s.active ≠ some k) :
    (s.apply o b).outline.scenarios[k]? = s.outline.scenarios[k]? := by
  have hstep := step_apply o s b
  generalize s.apply o b = s' at hstep
  cases hstep with
  | ignored => rfl
  | titled => rfl
  | entered => rfl
  | divided => rfl
  | named => exact List.getElem?_append_left hk
  | remarked => rfl
  | prepared => rfl
  | commented => exact State.getElem?_scenarios_file s _ h
  | stepped => exact State.getElem?_scenarios_file s _ h
  | listed => exact State.getElem?_scenarios_file s _ h
  | tabled => exact State.getElem?_scenarios_file s _ h

/-- Scenarios are never taken away. -/
theorem length_scenarios_apply (o : Options) (s : State) (b : Block) :
    s.outline.scenarios.length ≤ (s.apply o b).outline.scenarios.length := by
  have hstep := step_apply o s b
  generalize s.apply o b = s' at hstep
  cases hstep with
  | named => simp
  | commented => simp
  | stepped => simp
  | listed => simp
  | tabled => simp
  | _ => exact Nat.le_refl _

/-! ## Many blocks -/

theorem coherent_applyAll (hs : Coherent s) (blocks : List Block) :
    Coherent (s.applyAll o blocks) :=
  applyAll_preserves (P := Coherent) (fun _ b hs => coherent_apply hs b) hs blocks

/-- The open scenario of a coherent state is there, and it is the last one. -/
theorem activeScenario_of_coherent (hs : Coherent s) (hi : s.active = some i) :
    ∃ sc, s.activeScenario = some sc ∧ s.outline.scenarios.getLast? = some sc := by
  have hlast := hs.last_of_active i hi
  have hlt : i < s.outline.scenarios.length := by omega
  refine ⟨s.outline.scenarios[i], ?_, ?_⟩
  · rw [State.activeScenario, hi]
    exact List.getElem?_eq_getElem hlt
  · rw [List.getLast?_eq_getElem?, ← List.getElem?_eq_getElem hlt]
    congr 1
    omega

/-- A scenario that another one follows stays as it is, whatever blocks come. -/
theorem getElem?_scenarios_applyAll (hs : Coherent s) (blocks : List Block)
    (hk : k + 1 < s.outline.scenarios.length) :
    (s.applyAll o blocks).outline.scenarios[k]? = s.outline.scenarios[k]? := by
  induction blocks generalizing s with
  | nil => rfl
  | cons b blocks ih =>
    have hclosed : s.active ≠ some k := by
      intro hactive
      have := hs.last_of_active k hactive
      omega
    have hlen := length_scenarios_apply o s b
    calc ((s.apply o b).applyAll o blocks).outline.scenarios[k]?
        = (s.apply o b).outline.scenarios[k]? := ih (coherent_apply hs b) (by omega)
      _ = s.outline.scenarios[k]? := getElem?_scenarios_apply o b (by omega) hclosed

/-- **Every state that a pass reaches is coherent.**  A section is open only while recording, and a
scenario only while recording in a scenarios section.  The open scenario exists and is the last one,
so it can always be looked up.  The next block changes no scenario but the open one, and no blocks
at all change a scenario that is not the last. -/
theorem reachable_coherent (o : Options) (blocks : List Block) :
    let s := (State.initial o).applyAll o blocks
    (s.currentSection ≠ .none → s.recording = true) ∧
    (∀ i, s.active = some i →
      s.recording = true ∧ s.currentSection = .scenarios ∧
      i < s.outline.scenarios.length ∧ i = s.outline.scenarios.length - 1 ∧
      ∃ sc, s.activeScenario = some sc ∧ s.outline.scenarios.getLast? = some sc) ∧
    (∀ b k, k < s.outline.scenarios.length →
      (s.apply o b).outline.scenarios[k]? ≠ s.outline.scenarios[k]? → s.active = some k) ∧
    (∀ more k, k + 1 < s.outline.scenarios.length →
      (s.applyAll o more).outline.scenarios[k]? = s.outline.scenarios[k]?) := by
  intro s
  have hs : Coherent s := coherent_applyAll (coherent_initial o) blocks
  refine ⟨hs.recording_of_section, fun i hi => ?_, fun b k hk hchanged => ?_, fun more k hk => ?_⟩
  · obtain ⟨hrecording, hsection⟩ := hs.section_of_active i hi
    have hlast := hs.last_of_active i hi
    have hfound := activeScenario_of_coherent hs hi
    exact ⟨hrecording, hsection, by omega, by omega, hfound⟩
  · by_cases hactive : s.active = some k
    · exact hactive
    · exact absurd (getElem?_scenarios_apply o b hk hactive) hchanged
  · exact getElem?_scenarios_applyAll hs more hk

end Scenarist.Extraction
