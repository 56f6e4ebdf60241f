/-
  Filing — what adding an element to the open scenario does to a state.

  `State.file` looks at the open scenario twice, at its number and at what stands there.  One equation
  for each case is all that the other modules use of it: with no scenario open nothing happens, and
  with scenario `i` open its elements get one more; everything else stays.
-/
import Scenarist.Outline.Extraction

namespace Scenarist.Extraction

theorem modify_append_right {α : Type} (l m : List α) (i : Nat) (f : α → α) :
    (l ++ m).modify (l.length + i) f = l ++ m.modify i f := by
  induction l with
  | nil => simp
  | cons a l ih =>
    rw [List.length_cons, Nat.add_right_comm]
    exact congrArg (a :: ·) ih

theorem modify_length {α : Type} (l : List α) (a : α) (f : α → α) :
    (l ++ [a]).modify l.length f = l ++ [f a] := modify_append_right l [a] 0 f

namespace State

variable {s : State} {i : Nat}

theorem file_of_none (e : Element) (h : s.active = none) : s.file e = s := by
  unfold State.file State.activeScenario
  simp [h]

theorem file_of_some (e : Element) (h : s.active = some i) :
    s.file e
      = { s with outline := { s.outline with
          scenarios := s.outline.scenarios.modify i fun sc =>
            { sc with elements := sc.elements ++ [e] } } } := by
  obtain ⟨outline, title, recording, currentSection, active, tableHeader⟩ := s
  obtain rfl : active = some i := h
  unfold State.file State.activeScenario
  cases hsc : outline.scenarios[i]? with
  | some sc => simp [hsc]
  | none =>
    -- nothing stands at `i`, so `modify` has nothing to change
    have hlen : outline.scenarios.length ≤ i := List.getElem?_eq_none_iff.1 hsc
    rw [List.modify_eq_self hlen]
    simp [hsc]

@[simp] theorem file_tableHeader (s : State) (e : Element) :
    (s.file e).tableHeader = s.tableHeader := by
  unfold State.file
  split <;> rfl

@[simp] theorem file_recording (s : State) (e : Element) :
    (s.file e).recording = s.recording := by
  unfold State.file
  split <;> rfl

@[simp] theorem file_currentSection (s : State) (e : Element) :
    (s.file e).currentSection = s.currentSection := by
  unfold State.file
  split <;> rfl

@[simp] theorem file_title (s : State) (e : Element) : (s.file e).title = s.title := by
  unfold State.file
  split <;> rfl

@[simp] theorem file_active (s : State) (e : Element) : (s.file e).active = s.active := by
  unfold State.file
  split <;> rfl

@[simp] theorem file_background (s : State) (e : Element) :
    (s.file e).outline.background = s.outline.background := by
  unfold State.file
  split <;> rfl

@[simp] theorem file_comments (s : State) (e : Element) :
    (s.file e).outline.comments = s.outline.comments := by
  unfold State.file
  split <;> rfl

/-- Filing opens no scenario and closes none. -/
@[simp] theorem length_scenarios_file (s : State) (e : Element) :
    (s.file e).outline.scenarios.length = s.outline.scenarios.length := by
  unfold State.file
  split
  · exact List.length_modify ..
  · rfl

/-- Only the open scenario gets the element. -/
theorem getElem?_scenarios_file (s : State) (e : Element) {k : Nat} (h : s.active ≠ some k) :
    (s.file e).outline.scenarios[k]? = s.outline.scenarios[k]? := by
  cases hactive : s.active with
  | none => rw [file_of_none e hactive]
  | some i =>
    have hik : i ≠ k := by rintro rfl; exact h hactive
    rw [file_of_some e hactive]
    show (s.outline.scenarios.modify i _)[k]? = _
    simp [hik]

/-- After filing a scenario is one from before, perhaps with the element at its end. -/
theorem exists_of_mem_scenarios_file {e : Element} {sc : Scenario}
    (hsc : sc ∈ (s.file e).outline.scenarios) :
    ∃ old ∈ s.outline.scenarios, sc = old ∨ sc = { old with elements := old.elements ++ [e] } := by
  cases hactive : s.active with
  | none =>
    rw [file_of_none e hactive] at hsc
    exact ⟨sc, hsc, .inl rfl⟩
  | some i =>
    rw [file_of_some e hactive] at hsc
    obtain ⟨k, hk⟩ := List.mem_iff_getElem?.1 hsc
    rw [List.getElem?_modify] at hk
    obtain ⟨old, hold, rfl⟩ := Option.map_eq_some_iff.1 hk
    refine ⟨old, List.mem_of_getElem? hold, ?_⟩
    by_cases hik : i = k
    · exact .inr (if_pos hik)
    · exact .inl (if_neg hik)

/-- After filing there is one new element at most. -/
theorem mem_elements_file {e d : Element} {sc : Scenario} (hsc : sc ∈ (s.file e).outline.scenarios)
    (hd : d ∈ sc.elements) : d = e ∨ ∃ old ∈ s.outline.scenarios, d ∈ old.elements := by
  obtain ⟨old, hold, rfl | rfl⟩ := exists_of_mem_scenarios_file hsc
  · exact .inr ⟨sc, hold, hd⟩
  · rcases List.mem_append.1 hd with hd | hd
    · exact .inr ⟨old, hold, hd⟩
    · exact .inl (List.mem_singleton.1 hd)

end State

end Scenarist.Extraction
