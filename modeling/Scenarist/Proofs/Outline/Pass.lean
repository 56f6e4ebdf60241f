/-
  Pass — one pass over a page knows what looking back says.

  1. **Specification** — `outlineUpTo` and the readings of `Places`: each is decided by the nearest
     headings before a place, and none is carried along.

  2. **The state read off** — `stateAt o blocks n` is the state after `n` blocks, written down field
     by field from those readings.  The open scenario is always the last one, so its place among the
     scenarios is one less than their number.

  3. **The step** — `apply_stateAt`: the pass goes from `stateAt n` to `stateAt (n + 1)` over block
     `n`.  A heading changes what the places after it belong to; every other block adds at most one
     thing to the outline, and a step also changes the header for bullets.

  4. **The run** — `applyAll_take`, by induction on the number of blocks, and from it the outline of
     a whole page.
-/
import Scenarist.Proofs.Outline.Filing
import Scenarist.Proofs.Outline.Places

namespace Scenarist.Extraction

variable {o : Options} {blocks : List Block} {n m : Nat} {text : Text}

/-! ## The state after some blocks -/

/-- The state of a pass after `n` blocks, read off the nearest headings. -/
def stateAt (o : Options) (blocks : List Block) (n : Nat) : State where
  outline := { outlineUpTo o blocks n with title := [] }
  title := (nearest? blocks 1 0 n).map fun (_, text) => Text.trim text
  recording := (feature? o blocks n).isSome
  currentSection := sectionAt o blocks n
  active := (scenario? o blocks n).map fun _ => (scenarioHeadings o blocks n).length - 1
  tableHeader := headerAt o blocks n

theorem stateAt_zero (o : Options) (blocks : List Block) :
    stateAt o blocks 0 = State.initial o := rfl

/-! ## What is collected from one place more -/

theorem filterMap_range_succ {α : Type} (f : Nat → Option α) (n : Nat) :
    (List.range (n + 1)).filterMap f = (List.range n).filterMap f ++ (f n).toList := by
  rw [List.range_succ, List.filterMap_append]
  cases h : f n <;> simp [h]

theorem scenarioHeadings_succ (o : Options) (blocks : List Block) (n : Nat) :
    scenarioHeadings o blocks (n + 1)
      = scenarioHeadings o blocks n
        ++ ((scenarioName? o blocks n).map fun name => (n, name)).toList :=
  filterMap_range_succ _ n

theorem elementsUpTo_succ (o : Options) (blocks : List Block) (n m : Nat) :
    elementsUpTo o blocks (n + 1) m
      = elementsUpTo o blocks n m
        ++ (if scenario? o blocks n = some m then element? o blocks n else none).toList :=
  filterMap_range_succ _ n

theorem headerAt_succ (o : Options) (blocks : List Block) (n : Nat) :
    headerAt o blocks (n + 1)
      = match step? o blocks n with
        | some step => Sentence.headerOf step o.defaultTableHeader
        | none => headerAt o blocks n := by
  unfold headerAt
  rw [List.range_succ, List.reverse_append, List.reverse_singleton, List.singleton_append,
    List.findSome?_cons]
  cases step? o blocks n <;> rfl

theorem headerAt_succ_same (h : step? o blocks n = none) :
    headerAt o blocks (n + 1) = headerAt o blocks n := by
  rw [headerAt_succ, h]

/-- Outside a scenario there are no steps. -/
theorem step?_of_scenario?_none (h : scenario? o blocks n = none) : step? o blocks n = none := by
  unfold step?
  split
  · simp [h]
  · rfl

/-! ## The scenarios so far -/

theorem scenarioName?_other (h4 : ∀ t, blocks[n]? ≠ some (.heading 4 t)) :
    scenarioName? o blocks n = none := by
  rw [scenarioName?, bind_headingText?_eq_none h4]
  exact ite_self none

theorem scenarioName?_four (hb : blocks[n]? = some (.heading 4 text)) :
    scenarioName? o blocks n
      = if sectionAt o blocks n = .scenarios then some (Text.trim text) else none := by
  unfold scenarioName?
  rw [hb]
  rfl

theorem lt_of_mem_scenarioHeadings {x : Nat × Text} (h : x ∈ scenarioHeadings o blocks n) :
    x.1 < n := by
  obtain ⟨i, hi, hx⟩ := List.mem_filterMap.1 h
  obtain ⟨name, _, rfl⟩ := Option.map_eq_some_iff.1 hx
  exact List.mem_range.1 hi

/-- **The open scenario is the last one.**  Its heading is the last of the scenario headings. -/
theorem scenarioHeadings_of_scenario? (h : scenario? o blocks n = some m) :
    ∃ name, scenarioHeadings o blocks n = scenarioHeadings o blocks m ++ [(m, name)] := by
  induction n with
  | zero => simp [scenario?, sectionAt, sectionHeading?, feature?, nearest?] at h
  | succ n ih =>
    rw [scenarioHeadings_succ]
    rcases quiet_or_heading blocks n with hq | ⟨text, hb⟩ | ⟨text, hb⟩ | ⟨text, hb⟩
    · rw [scenario?_succ hq] at h
      obtain ⟨name, hname⟩ := ih h
      refine ⟨name, ?_⟩
      rw [scenarioName?_other fun t => hq 4 t (by omega) (by omega), hname]
      simp
    · rw [scenario?_succ_two hb] at h
      cases h
    · rw [scenario?_succ_three hb] at h
      cases h
    · rw [scenario?_succ_four hb] at h
      by_cases hs : sectionAt o blocks n = .scenarios
      · rw [if_pos hs] at h
        injection h with h
        subst h
        refine ⟨Text.trim text, ?_⟩
        rw [scenarioName?_four hb, if_pos hs]
        rfl
      · rw [if_neg hs] at h
        cases h

theorem scenario?_lt (h : scenario? o blocks n = some m) : m < n := by
  obtain ⟨name, hm⟩ := scenarioHeadings_of_scenario? h
  have hmem : (m, name) ∈ scenarioHeadings o blocks n := by rw [hm]; simp
  exact lt_of_mem_scenarioHeadings hmem

/-- No element before a scenario's heading belongs to it. -/
theorem elementsUpTo_self (o : Options) (blocks : List Block) (m : Nat) :
    elementsUpTo o blocks m m = [] := by
  refine List.filterMap_eq_nil_iff.2 fun i hi => if_neg fun h => ?_
  have := scenario?_lt h
  have := List.mem_range.1 hi
  omega

/-- The scenarios that the first `n` places give. -/
theorem scenarios_outlineUpTo (o : Options) (blocks : List Block) (n : Nat) :
    (outlineUpTo o blocks n).scenarios
      = (scenarioHeadings o blocks n).map fun x =>
          { name := x.2, elements := elementsUpTo o blocks n x.1 } := rfl

/-- A place that files nothing leaves the scenarios as they are. -/
theorem scenarios_succ_same (hname : scenarioName? o blocks n = none)
    (h : scenario? o blocks n = none ∨ element? o blocks n = none) :
    (outlineUpTo o blocks (n + 1)).scenarios = (outlineUpTo o blocks n).scenarios := by
  rw [scenarios_outlineUpTo, scenarios_outlineUpTo, scenarioHeadings_succ, hname]
  have hsame : ∀ m, elementsUpTo o blocks (n + 1) m = elementsUpTo o blocks n m := by
    intro m
    rw [elementsUpTo_succ]
    rcases h with h | h <;> simp [h]
  simp [hsame]

/-- A scenario heading adds a scenario without elements. -/
theorem scenarios_succ_name {name : Text} (hname : scenarioName? o blocks n = some name)
    (he : element? o blocks n = none) :
    (outlineUpTo o blocks (n + 1)).scenarios
      = (outlineUpTo o blocks n).scenarios ++ [{ name := name }] := by
  rw [scenarios_outlineUpTo, scenarios_outlineUpTo, scenarioHeadings_succ, hname]
  have hsame : ∀ m, elementsUpTo o blocks (n + 1) m = elementsUpTo o blocks n m := by
    intro m
    rw [elementsUpTo_succ, he]
    simp
  simp [hsame, elementsUpTo_self]

/-- A place that files an element adds it to the last scenario. -/
theorem scenarios_succ_filed {e : Element} (hname : scenarioName? o blocks n = none)
    (hm : scenario? o blocks n = some m) (he : element? o blocks n = some e) :
    (outlineUpTo o blocks (n + 1)).scenarios
      = (outlineUpTo o blocks n).scenarios.modify ((scenarioHeadings o blocks n).length - 1)
          fun sc => { sc with elements := sc.elements ++ [e] } := by
  obtain ⟨name, hlast⟩ := scenarioHeadings_of_scenario? hm
  have hnew : elementsUpTo o blocks (n + 1) m = elementsUpTo o blocks n m ++ [e] := by
    rw [elementsUpTo_succ, if_pos hm, he]
    rfl
  -- the scenarios before the last one start before it, so the place is not theirs
  have hold : ∀ x ∈ scenarioHeadings o blocks m,
      elementsUpTo o blocks (n + 1) x.1 = elementsUpTo o blocks n x.1 := by
    intro x hx
    have hlt := lt_of_mem_scenarioHeadings hx
    rw [elementsUpTo_succ, if_neg (by rw [hm]; intro h; injection h with h; omega)]
    simp
  rw [scenarios_outlineUpTo, scenarios_outlineUpTo, scenarioHeadings_succ, hname, hlast]
  simp only [Option.map_none, Option.toList_none, List.append_nil, List.map_append, List.map_cons,
    List.map_nil, List.length_append, List.length_singleton, Nat.add_sub_cancel]
  rw [List.map_congr_left fun x hx => by rw [hold x hx], hnew,
    ← List.length_map (f := fun x : Nat × Text =>
      ({ name := x.2, elements := elementsUpTo o blocks n x.1 } : Scenario)), modify_length]

/-! ## Filing an element -/

/-- The scenario that a place is in is the open one of the state. -/
theorem activeScenario_stateAt (o : Options) (blocks : List Block) (n : Nat) :
    (stateAt o blocks n).activeScenario.isSome = (scenario? o blocks n).isSome := by
  cases hm : scenario? o blocks n with
  | none => simp [State.activeScenario, stateAt, hm]
  | some m =>
    obtain ⟨name, hlast⟩ := scenarioHeadings_of_scenario? hm
    simp [State.activeScenario, stateAt, hm, scenarios_outlineUpTo, hlast]

theorem file_stateAt_none (e : Element) (hm : scenario? o blocks n = none) :
    (stateAt o blocks n).file e = stateAt o blocks n :=
  State.file_of_none e (by simp [stateAt, hm])

theorem file_stateAt (e : Element) (hm : scenario? o blocks n = some m) :
    (stateAt o blocks n).file e
      = { stateAt o blocks n with outline := { (stateAt o blocks n).outline with
          scenarios := (outlineUpTo o blocks n).scenarios.modify
            ((scenarioHeadings o blocks n).length - 1)
            fun sc => { sc with elements := sc.elements ++ [e] } } } :=
  State.file_of_some e (by simp [stateAt, hm])

/-! ## One more block -/

/-- What one more place adds to the outline, its title left open. -/
theorem content_succ (o : Options) (blocks : List Block) (n : Nat) :
    { outlineUpTo o blocks (n + 1) with title := [] }
      = { background := (outlineUpTo o blocks n).background ++ (background? o blocks n).toList
          scenarios := (outlineUpTo o blocks (n + 1)).scenarios
          comments := (outlineUpTo o blocks n).comments ++ (comment? o blocks n).toList : Outline } := by
  have hbackground := filterMap_range_succ (background? o blocks) n
  have hcomments := filterMap_range_succ (comment? o blocks) n
  simp [outlineUpTo, hbackground, hcomments]

/-- A heading that starts no scenario adds nothing. -/
theorem content_succ_heading {level : Nat} (hb : blocks[n]? = some (.heading level text))
    (hname : scenarioName? o blocks n = none) :
    { outlineUpTo o blocks (n + 1) with title := [] }
      = { outlineUpTo o blocks n with title := [] } := by
  have hbackground : background? o blocks n = none := by rw [background?, hb]
  have hcomment : comment? o blocks n = none := by rw [comment?, hb]
  have helement : element? o blocks n = none := by rw [element?, hb]
  rw [content_succ, scenarios_succ_same hname (Or.inr helement), hbackground, hcomment]
  simp

theorem headerAt_succ_heading {level : Nat} (hb : blocks[n]? = some (.heading level text)) :
    headerAt o blocks (n + 1) = headerAt o blocks n :=
  headerAt_succ_same (by rw [step?, hb])

/-- A heading of another level than 2 to 4 changes the title at most. -/
theorem stateAt_succ_outside {level : Nat} (hb : blocks[n]? = some (.heading level text))
    (hq : Quiet blocks n) :
    stateAt o blocks (n + 1)
      = { stateAt o blocks n with
          title := (nearest? blocks 1 0 (n + 1)).map fun (_, text) => Text.trim text } := by
  have h2 := fun t => hq 2 t (by omega) (by omega)
  have h3 := fun t => hq 3 t (by omega) (by omega)
  have hname : scenarioName? o blocks n = none :=
    scenarioName?_other fun t => hq 4 t (by omega) (by omega)
  unfold stateAt
  rw [content_succ_heading hb hname, headerAt_succ_heading hb, feature?_succ h2,
    sectionAt_succ h2 h3, scenario?_succ hq, scenarioHeadings_succ, hname]
  simp

theorem applyHeading_two (hb : blocks[n]? = some (.heading 2 text)) :
    (stateAt o blocks n).applyHeading o 2 text = stateAt o blocks (n + 1) := by
  have h1 : ∀ t, blocks[n]? ≠ some (.heading 1 t) := heading_ne hb (by decide)
  have hname : scenarioName? o blocks n = none := scenarioName?_other (heading_ne hb (by decide))
  show { stateAt o blocks n with
      recording := o.featureHeadings.contains (normalName text)
      currentSection := .none
      active := none } = stateAt o blocks (n + 1)
  unfold stateAt
  rw [content_succ_heading hb hname, headerAt_succ_heading hb, nearest?_succ_other 0 h1,
    feature?_succ_heading hb, sectionAt_succ_two hb, scenario?_succ_two hb]
  by_cases hf : normalName text ∈ o.featureHeadings
  · simp [hf]
  · simp [hf]

theorem applyHeading_three (hb : blocks[n]? = some (.heading 3 text)) :
    (stateAt o blocks n).applyHeading o 3 text = stateAt o blocks (n + 1) := by
  have h1 : ∀ t, blocks[n]? ≠ some (.heading 1 t) := heading_ne hb (by decide)
  have h2 : ∀ t, blocks[n]? ≠ some (.heading 2 t) := heading_ne hb (by decide)
  have hname : scenarioName? o blocks n = none := scenarioName?_other (heading_ne hb (by decide))
  have hnext : stateAt o blocks (n + 1)
      = { stateAt o blocks n with
          currentSection := if (feature? o blocks n).isSome then
            State.sectionOf o (normalName text) else .none
          active := none } := by
    unfold stateAt
    rw [content_succ_heading hb hname, headerAt_succ_heading hb, nearest?_succ_other 0 h1,
      feature?_succ h2, sectionAt_succ_three hb, scenario?_succ_three hb]
    rfl
  rw [hnext]
  cases hf : feature? o blocks n with
  | some j => simp [State.applyHeading, stateAt, hf]
  | none =>
    -- outside a feature no section and no scenario is open
    have hsection : sectionAt o blocks n = .none := by
      by_cases hs : sectionAt o blocks n = .none
      · exact hs
      · have := feature?_isSome_of_sectionAt hs
        rw [hf] at this
        cases this
    have hscenario : scenario? o blocks n = none :=
      scenario?_of_sectionAt_ne (by rw [hsection]; nofun)
    simp [State.applyHeading, stateAt, hf, hsection, hscenario]

theorem applyHeading_four (hb : blocks[n]? = some (.heading 4 text)) :
    (stateAt o blocks n).applyHeading o 4 text = stateAt o blocks (n + 1) := by
  have h1 : ∀ t, blocks[n]? ≠ some (.heading 1 t) := heading_ne hb (by decide)
  have h2 : ∀ t, blocks[n]? ≠ some (.heading 2 t) := heading_ne hb (by decide)
  have h3 : ∀ t, blocks[n]? ≠ some (.heading 3 t) := heading_ne hb (by decide)
  by_cases hs : sectionAt o blocks n = .scenarios
  · have hfeature : (feature? o blocks n).isSome = true :=
      feature?_isSome_of_sectionAt (by rw [hs]; nofun)
    have hname : scenarioName? o blocks n = some (Text.trim text) := by
      rw [scenarioName?_four hb, if_pos hs]
    have hbackground : background? o blocks n = none := by rw [background?, hb]
    have hcomment : comment? o blocks n = none := by rw [comment?, hb]
    have helement : element? o blocks n = none := by rw [element?, hb]
    unfold stateAt
    rw [content_succ, scenarios_succ_name hname helement, hbackground, hcomment,
      headerAt_succ_heading hb, nearest?_succ_other 0 h1, feature?_succ h2, sectionAt_succ h2 h3,
      scenario?_succ_four hb, if_pos hs, scenarioHeadings_succ, hname]
    simp [State.applyHeading, hfeature, hs, scenarios_outlineUpTo]
  · have hname : scenarioName? o blocks n = none := by
      rw [scenarioName?_four hb, if_neg hs]
    have hscenario : scenario? o blocks n = none := scenario?_of_sectionAt_ne hs
    unfold stateAt
    rw [content_succ_heading hb hname, headerAt_succ_heading hb, nearest?_succ_other 0 h1,
      feature?_succ h2, sectionAt_succ h2 h3, scenario?_succ_four hb, if_neg hs, hscenario]
    simp [State.applyHeading, hs]

/-- Over a heading the pass comes to the state read off one place further. -/
theorem applyHeading_stateAt {level : Nat} (hb : blocks[n]? = some (.heading level text)) :
    (stateAt o blocks n).applyHeading o level text = stateAt o blocks (n + 1) := by
  by_cases h2 : level = 2
  · subst h2; exact applyHeading_two hb
  by_cases h3 : level = 3
  · subst h3; exact applyHeading_three hb
  by_cases h4 : level = 4
  · subst h4; exact applyHeading_four hb
  -- a title, or a heading of a level that the pass has no use for
  have hq : Quiet blocks n := fun l t hlow hhigh => heading_ne hb (by omega) t
  rw [stateAt_succ_outside hb hq]
  by_cases h1 : level = 1
  · subst h1
    rw [nearest?_succ_heading hb (Nat.zero_le n)]
    rfl
  · rw [nearest?_succ_other 0 (heading_ne hb h1)]
    unfold State.applyHeading
    split <;> first | contradiction | rfl

/-! ## One more block that is no heading -/

/-- What places belong to stays the same over a block that is no heading. -/
theorem stateAt_succ_content (hb : ∀ l t, blocks[n]? ≠ some (.heading l t)) :
    stateAt o blocks (n + 1)
      = { stateAt o blocks n with
          outline :=
            { background := (outlineUpTo o blocks n).background ++ (background? o blocks n).toList
              scenarios := (outlineUpTo o blocks (n + 1)).scenarios
              comments := (outlineUpTo o blocks n).comments ++ (comment? o blocks n).toList }
          tableHeader := headerAt o blocks (n + 1) } := by
  have hq : Quiet blocks n := fun l t _ _ => hb l t
  unfold stateAt
  rw [content_succ, nearest?_succ_other 0 (hb 1), feature?_succ (hb 2),
    sectionAt_succ (hb 2) (hb 3), scenario?_succ hq, scenarioHeadings_succ,
    scenarioName?_other (hb 4)]
  simp

/-- A block that gives nothing to the outline. -/
theorem stateAt_succ_same (hb : ∀ l t, blocks[n]? ≠ some (.heading l t))
    (hbackground : background? o blocks n = none) (hcomment : comment? o blocks n = none)
    (hnone : scenario? o blocks n = none ∨ element? o blocks n = none) :
    stateAt o blocks (n + 1)
      = { stateAt o blocks n with tableHeader := headerAt o blocks (n + 1) } := by
  rw [stateAt_succ_content hb, hbackground, hcomment,
    scenarios_succ_same (scenarioName?_other (hb 4)) hnone]
  simp [stateAt]

/-- A block that gives an element to the open scenario. -/
theorem stateAt_succ_file {e : Element} (hb : ∀ l t, blocks[n]? ≠ some (.heading l t))
    (hbackground : background? o blocks n = none) (hcomment : comment? o blocks n = none)
    (hm : scenario? o blocks n = some m) (he : element? o blocks n = some e) :
    stateAt o blocks (n + 1)
      = { (stateAt o blocks n).file e with tableHeader := headerAt o blocks (n + 1) } := by
  rw [stateAt_succ_content hb, hbackground, hcomment,
    scenarios_succ_filed (scenarioName?_other (hb 4)) hm he, file_stateAt e hm]
  simp [stateAt]

/-- A block that gives neither a background step nor a comment nor a step of a scenario files its
element, if it has one. -/
theorem stateAt_succ_element (hb : ∀ l t, blocks[n]? ≠ some (.heading l t))
    (hbackground : background? o blocks n = none) (hcomment : comment? o blocks n = none)
    (hstep : step? o blocks n = none) :
    stateAt o blocks (n + 1)
      = match element? o blocks n with
        | some e => (stateAt o blocks n).file e
        | none => stateAt o blocks n := by
  have hheader : headerAt o blocks (n + 1) = headerAt o blocks n := headerAt_succ_same hstep
  cases he : element? o blocks n with
  | none =>
    rw [stateAt_succ_same hb hbackground hcomment (Or.inr he), hheader]
    rfl
  | some e =>
    show stateAt o blocks (n + 1) = (stateAt o blocks n).file e
    cases hm : scenario? o blocks n with
    | none =>
      rw [stateAt_succ_same hb hbackground hcomment (Or.inl hm), hheader, file_stateAt_none e hm]
      rfl
    | some m =>
      rw [stateAt_succ_file hb hbackground hcomment hm he, hheader, file_stateAt e hm]
      rfl

theorem applyQuote_stateAt {content : RichText} (hb : blocks[n]? = some (.quote content)) :
    (stateAt o blocks n).applyQuote content = stateAt o blocks (n + 1) := by
  have hcontent : ∀ l t, blocks[n]? ≠ some (.heading l t) := by rw [hb]; nofun
  have hbackground : background? o blocks n = none := by rw [background?, hb]
  have hstep : step? o blocks n = none := by rw [step?, hb]
  have hactive := activeScenario_stateAt o blocks n
  unfold State.applyQuote
  cases hm : scenario? o blocks n with
  | some m =>
    have hcomment : comment? o blocks n = none := by rw [comment?, hb]; simp [hm]
    have helement : element? o blocks n = some (.comment (RichText.flatten content)) := by
      rw [element?, hb]
    have hopen : (stateAt o blocks n).activeScenario.isSome = true := by rw [hactive, hm]; rfl
    rw [stateAt_succ_element hcontent hbackground hcomment hstep, helement]
    exact if_pos hopen
  | none =>
    have hcomment : comment? o blocks n = some (Text.indent 2 (RichText.flatten content)) := by
      rw [comment?, hb]; simp [hm]
    have hname : scenarioName? o blocks n = none := scenarioName?_other (hcontent 4)
    have hclosed : ¬ (stateAt o blocks n).activeScenario.isSome = true := by
      rw [hactive, hm]; decide
    rw [stateAt_succ_content hcontent, hbackground, hcomment, scenarios_succ_same hname (Or.inl hm),
      headerAt_succ_same hstep]
    refine (if_neg hclosed).trans ?_
    simp [stateAt]

/-- A paragraph where no scenario is open is a background step or nothing. -/
theorem stateAt_succ_paragraph {raw : Text} (hb : blocks[n]? = some (.paragraph raw))
    (hm : scenario? o blocks n = none) :
    stateAt o blocks (n + 1)
      = { stateAt o blocks n with outline := { (stateAt o blocks n).outline with
          background := (outlineUpTo o blocks n).background ++ (background? o blocks n).toList } } := by
  have hcontent : ∀ l t, blocks[n]? ≠ some (.heading l t) := by rw [hb]; nofun
  have hcomment : comment? o blocks n = none := by rw [comment?, hb]
  have hname : scenarioName? o blocks n = none := scenarioName?_other (hcontent 4)
  rw [stateAt_succ_content hcontent, hcomment, scenarios_succ_same hname (Or.inl hm),
    headerAt_succ_same (step?_of_scenario?_none hm)]
  simp [stateAt]

theorem applyParagraph_stateAt {raw : Text} (hb : blocks[n]? = some (.paragraph raw)) :
    (stateAt o blocks n).applyParagraph o raw = stateAt o blocks (n + 1) := by
  have hactive := activeScenario_stateAt o blocks n
  have hsection : (stateAt o blocks n).currentSection = sectionAt o blocks n := rfl
  unfold State.applyParagraph
  cases hs : sectionAt o blocks n with
  | none =>
    have hm : scenario? o blocks n = none := scenario?_of_sectionAt_ne (by rw [hs]; nofun)
    have hbackground : background? o blocks n = none := by rw [background?, hb]; simp [hs]
    rw [hsection, hs, stateAt_succ_paragraph hb hm, hbackground]
    simp [stateAt]
  | background =>
    have hm : scenario? o blocks n = none := scenario?_of_sectionAt_ne (by rw [hs]; nofun)
    have hbackground : background? o blocks n = some (Sentence.clean raw) := by
      rw [background?, hb]; simp [hs]
    rw [stateAt_succ_paragraph hb hm, hbackground, hsection, hs]
    simp [stateAt, hs]
  | scenarios =>
    have hcontent : ∀ l t, blocks[n]? ≠ some (.heading l t) := by rw [hb]; nofun
    have hcomment : comment? o blocks n = none := by rw [comment?, hb]
    have hbackground : background? o blocks n = none := by rw [background?, hb]; simp [hs]
    rw [hsection, hs]
    show (if Sentence.isStep (Sentence.clean raw) && (stateAt o blocks n).activeScenario.isSome then
        _ else _) = _
    rw [hactive]
    by_cases hstep : Sentence.isStep (Sentence.clean raw) = true
    · cases hm : scenario? o blocks n with
      | some m =>
        have helement : element? o blocks n = some (.step (Sentence.clean raw)) := by
          rw [element?, hb]; simp [hstep]
        have hheader : headerAt o blocks (n + 1)
            = Sentence.headerOf (Sentence.clean raw) o.defaultTableHeader := by
          rw [headerAt_succ, step?, hb]; simp [hstep, hm]
        rw [stateAt_succ_file hcontent hbackground hcomment hm helement, hheader]
        simp [hstep]
      | none =>
        rw [stateAt_succ_paragraph hb hm, hbackground]
        simp [stateAt]
    · have helement : element? o blocks n = none := by rw [element?, hb]; simp [hstep]
      have hnone : step? o blocks n = none := by rw [step?, hb]; simp [hstep]
      rw [stateAt_succ_element hcontent hbackground hcomment hnone, helement]
      simp [hstep]

/-- Rows give an empty table exactly when none of them has a cell. -/
theorem isEmpty_ofRows (rows : List (List Text)) :
    (Table.ofRows rows).isEmpty = !rows.any fun row => !row.isEmpty := by
  show (Table.normalRows rows).isEmpty = _
  rw [Bool.eq_iff_iff]
  simp [Table.normalRows, Table.trimmedRows]

/-- Outside a scenarios section filing does nothing. -/
theorem file_stateAt_outside (e : Element) (hs : sectionAt o blocks n ≠ .scenarios) :
    (stateAt o blocks n).file e = stateAt o blocks n :=
  file_stateAt_none e (scenario?_of_sectionAt_ne hs)

theorem applyTable_stateAt {rows : List (List Text)} (hb : blocks[n]? = some (.table rows)) :
    (stateAt o blocks n).applyTable rows = stateAt o blocks (n + 1) := by
  have hcontent : ∀ l t, blocks[n]? ≠ some (.heading l t) := by rw [hb]; nofun
  have hbackground : background? o blocks n = none := by rw [background?, hb]
  have hcomment : comment? o blocks n = none := by rw [comment?, hb]
  have hstep : step? o blocks n = none := by rw [step?, hb]
  have helement : element? o blocks n
      = if rows.any fun row => !row.isEmpty then some (.table (Table.ofRows rows)) else none := by
    rw [element?, hb]
  rw [stateAt_succ_element hcontent hbackground hcomment hstep, helement]
  show (if (feature? o blocks n).isSome && !(Table.ofRows rows).isEmpty
      && sectionAt o blocks n == .scenarios then _ else _) = _
  rw [isEmpty_ofRows, Bool.not_not]
  by_cases hcell : (rows.any fun row => !row.isEmpty) = true
  · by_cases hs : sectionAt o blocks n = .scenarios
    · have hfeature : (feature? o blocks n).isSome = true :=
        feature?_isSome_of_sectionAt (by rw [hs]; nofun)
      simp [hcell, hs, hfeature]
    · simp [hcell, hs, file_stateAt_outside _ hs]
  · simp [hcell]

theorem applyBullet_stateAt {raw : Text} (hb : blocks[n]? = some (.bullet raw)) :
    (stateAt o blocks n).applyBullet raw = stateAt o blocks (n + 1) := by
  have hcontent : ∀ l t, blocks[n]? ≠ some (.heading l t) := by rw [hb]; nofun
  have hbackground : background? o blocks n = none := by rw [background?, hb]
  have hcomment : comment? o blocks n = none := by rw [comment?, hb]
  have hstep : step? o blocks n = none := by rw [step?, hb]
  have helement : element? o blocks n
      = if (Text.trim raw).isEmpty then none
        else some (.bullet (headerAt o blocks n) (Text.trim raw)) := by
    rw [element?, hb]
  rw [stateAt_succ_element hcontent hbackground hcomment hstep, helement]
  show (if !(Text.trim raw).isEmpty && sectionAt o blocks n == .scenarios then
      (stateAt o blocks n).file (.bullet (headerAt o blocks n) (Text.trim raw)) else _) = _
  by_cases hblank : (Text.trim raw).isEmpty = true
  · simp [hblank]
  · by_cases hs : sectionAt o blocks n = .scenarios
    · simp [hblank, hs]
    · simp [hblank, hs, file_stateAt_outside _ hs]

/-! ## The whole pass -/

/-- **The step.**  Over the block at a place the pass goes to the state read off one place
further. -/
theorem apply_stateAt {b : Block} (hb : blocks[n]? = some b) :
    (stateAt o blocks n).apply o b = stateAt o blocks (n + 1) := by
  cases b with
  | heading level text => exact applyHeading_stateAt hb
  | quote content => exact applyQuote_stateAt hb
  | paragraph raw => exact applyParagraph_stateAt hb
  | bullet raw => exact applyBullet_stateAt hb
  | table rows => exact applyTable_stateAt hb

/-- **The run.**  After `n` blocks the pass is in the state read off the first `n` places. -/
theorem applyAll_take (o : Options) (blocks : List Block) :
    ∀ n, n ≤ blocks.length →
      (State.initial o).applyAll o (blocks.take n) = stateAt o blocks n := by
  intro n
  induction n with
  | zero => intro _; exact (stateAt_zero o blocks).symm
  | succ n ih =>
    intro hn
    have hb : blocks[n]? = some blocks[n] := List.getElem?_eq_getElem (by omega)
    have hrest := ih (by omega)
    unfold State.applyAll at hrest ⊢
    rw [List.take_add_one, hb, Option.toList_some, List.foldl_append, hrest]
    exact apply_stateAt hb

theorem applyAll_initial (o : Options) (blocks : List Block) :
    (State.initial o).applyAll o blocks = stateAt o blocks blocks.length := by
  have h := applyAll_take o blocks blocks.length (Nat.le_refl _)
  rwa [List.take_length] at h

/-! ## The outline of a page -/

theorem nearest?_isSome {level low k : Nat} (hlow : low ≤ k) (hk : k < n)
    (hb : blocks[k]? = some (.heading level text)) :
    (nearest? blocks level low n).isSome = true := by
  induction n with
  | zero => omega
  | succ n ih =>
    by_cases hn : ∃ t, blocks[n]? = some (.heading level t)
    · obtain ⟨t, ht⟩ := hn
      rw [nearest?_succ_heading ht (by omega)]
      rfl
    · have hother : ∀ t, blocks[n]? ≠ some (.heading level t) := fun t ht => hn ⟨t, ht⟩
      have hkn : k ≠ n := by rintro rfl; exact hother text hb
      rw [nearest?_succ_other low hother]
      exact ih (by omega)

/-- **The outline of a page is read off its nearest headings.**  Every page with a level-1 heading
gives the outline that `outlineUpTo` collects from all its places: the last level-1 heading as the
title, the paragraphs of background sections, the level-4 headings of scenarios sections with the
blocks whose scenario they are, and the quotes that have no scenario. -/
theorem run_eq_outlineUpTo (o : Options) (blocks : List Block)
    (htitle : ∃ text, Block.heading 1 text ∈ blocks) :
    run o blocks = .ok (outlineUpTo o.normalized blocks blocks.length) := by
  obtain ⟨text, hmem⟩ := htitle
  obtain ⟨k, hk, hb⟩ := List.mem_iff_getElem.1 hmem
  have hbk : blocks[k]? = some (.heading 1 text) := by rw [List.getElem?_eq_getElem hk, hb]
  have hsome := nearest?_isSome (Nat.zero_le k) hk hbk
  have hne : ¬ blocks.isEmpty = true := by
    intro he
    rw [List.isEmpty_iff.1 he] at hmem
    cases hmem
  unfold run runNormalized
  rw [if_neg hne, applyAll_initial]
  cases hn : nearest? blocks 1 0 blocks.length with
  | none =>
    rw [hn] at hsome
    cases hsome
  | some found => simp [State.finish, stateAt, hn, outlineUpTo]

/-- A page that leaves its feature, where a scenario is named but not recorded, and comes back. -/
def reenteredPage : List Block :=
  [ .heading 1 "Draft".toList, .quote [.text "owned by auth".toList],
    .heading 2 "Feature".toList, .heading 3 "Scenarios".toList,
    .heading 4 "One".toList, .paragraph "Then I see the following errors:".toList,
    .bullet "locked".toList,
    .heading 2 "Discussion".toList, .heading 3 "Scenarios".toList, .heading 4 "Lost".toList,
    .paragraph "Then the following rows are ignored".toList, .bullet "ignored".toList,
    .heading 2 " USER story ".toList, .heading 3 "Background".toList, .heading 4 "Lost".toList,
    .paragraph "Given [the app](u) is\nopen".toList,
    .heading 3 "scenarios".toList, .quote [],
    .heading 4 "Two".toList, .bullet "expired".toList, .bullet " ".toList, .table [[]],
    .heading 1 " Login ".toList ]

/-- On such a page the header `Errors` outlives the region it was found in. -/
theorem run_reenteredPage :
    (∃ text, Block.heading 1 text ∈ reenteredPage) ∧
      run {} reenteredPage = .ok
        { title := "Login".toList
          background := ["Given the app isopen".toList]
          scenarios :=
            [ { name := "One".toList
                elements :=
                  [ .step "Then I see the following errors:".toList,
                    .bullet "Errors".toList "locked".toList ] },
              { name := "Two".toList
                elements := [.bullet "Errors".toList "expired".toList] } ]
          comments := ["  owned by auth".toList, "  ".toList] } := by
  have htitle : ∃ text, Block.heading 1 text ∈ reenteredPage :=
    ⟨"Draft".toList, List.mem_cons_self ..⟩
  refine ⟨htitle, (run_eq_outlineUpTo {} reenteredPage htitle).trans (congrArg Except.ok ?_)⟩
  decide +kernel

end Scenarist.Extraction
