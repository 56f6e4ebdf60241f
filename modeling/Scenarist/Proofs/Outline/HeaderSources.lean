/-
  Header sources — which step gave a bullet its header.

  1. **Specification** — `headerAfter` reads a header off the elements before a bullet: the last step
     among them gives it, and the fallback stands in where there is none.  It looks at the finished
     outline only; scenarios and features have no part in it.

  2. **The invariant (`Sourced`)** — every bullet so far has the header that the elements before it
     give, and the header kept for the next bullet is the one that all elements so far give.  Elements
     are only ever added at the end, because the open scenario is the last one.

  3. **Steps that are not recorded** — a paragraph that adds no element changes nothing but the
     background, which no later block looks at, so a page without it has the same scenarios.
-/
import Scenarist.Proofs.Outline.OpenScenario
import Scenarist.Proofs.Outline.Pass
import Scenarist.Proofs.Outline.Regions

namespace Scenarist

/-- The elements of all scenarios, in order. -/
def Outline.elements (o : Outline) : List Element := o.scenarios.flatMap Scenario.elements

/-- The text of a step. -/
def Element.stepText? : Element → Option Text
  | .step text => some text
  | _ => none

end Scenarist

namespace Scenarist.Extraction

variable {o : Options} {s : State} {e : Element} {es : List Element} {fallback : Text}

/-! ## Specification -/

/-- The header for a bullet after some elements: what the last step among them gives. -/
def headerAfter (fallback : Text) (es : List Element) : Text :=
  match es.reverse.findSome? Element.stepText? with
  | some step => Sentence.headerOf step fallback
  | none => fallback

/-- Every bullet among some elements has the header that the elements before it give. -/
def HeadersSourced (fallback : Text) (es : List Element) : Prop :=
  ∀ before header value after, es = before ++ .bullet header value :: after →
    header = headerAfter fallback before

theorem headerAfter_step (fallback : Text) (es : List Element) (step : Text) :
    headerAfter fallback (es ++ [.step step]) = Sentence.headerOf step fallback := by
  have hlast : (es ++ [Element.step step]).reverse.findSome? Element.stepText? = some step := by
    rw [List.reverse_append, List.reverse_singleton, List.singleton_append, List.findSome?_cons]
    rfl
  rw [headerAfter, hlast]

theorem headerAfter_other (h : e.stepText? = none) :
    headerAfter fallback (es ++ [e]) = headerAfter fallback es := by
  simp [headerAfter, h]

theorem headersSourced_concat (hes : HeadersSourced fallback es)
    (he : ∀ header value, e = .bullet header value → header = headerAfter fallback es) :
    HeadersSourced fallback (es ++ [e]) := by
  intro before header value after hsplit
  -- the bullet is the new element, or it stands among the old ones
  rcases List.eq_nil_or_concat after with rfl | ⟨init, last, rfl⟩
  · obtain ⟨rfl, hlast⟩ := List.append_inj' hsplit rfl
    exact he header value (List.singleton_inj.1 hlast)
  · have hinit : es = before ++ .bullet header value :: init := by
      rw [List.concat_eq_append, ← List.cons_append, ← List.append_assoc] at hsplit
      exact (List.append_inj' hsplit rfl).1
    exact hes before header value init hinit

/-! ## The invariant -/

/-- What a pass keeps up about the headers of bullets and the steps that gave them. -/
structure Sourced (o : Options) (s : State) : Prop where
  /-- The open scenario is the last one. -/
  coherent : Coherent s
  /-- The bullets so far have their headers from the elements before them. -/
  bullets : HeadersSourced o.defaultTableHeader s.outline.elements
  /-- The next bullet will have its header from the elements so far. -/
  next : s.tableHeader = headerAfter o.defaultTableHeader s.outline.elements

theorem sourced_initial (o : Options) : Sourced o (State.initial o) where
  coherent := coherent_initial o
  bullets := by
    intro before header value after hsplit
    exact absurd hsplit.symm (List.append_ne_nil_of_right_ne_nil _ (List.cons_ne_nil _ _))
  next := rfl

/-- An element that is filed comes after all others. -/
theorem elements_file {i : Nat} (hs : Coherent s) (hactive : s.active = some i) (e : Element) :
    (s.file e).outline.elements = s.outline.elements ++ [e] := by
  obtain ⟨front, last, hscenarios, hfile⟩ := file_of_coherent hs hactive e
  rw [hfile]
  unfold Outline.elements
  rw [hscenarios]
  simp

theorem sourced_file (hs : Sourced o s) (hstep : e.stepText? = none)
    (he : ∀ header value, e = .bullet header value → header = s.tableHeader) :
    Sourced o (s.file e) := by
  cases hactive : s.active with
  | none =>
    rw [State.file_of_none e hactive]
    exact hs
  | some i =>
    have helements := elements_file hs.coherent hactive e
    refine ⟨coherent_file hs.coherent e, ?_, ?_⟩
    · rw [helements]
      exact headersSourced_concat hs.bullets fun header value heq => (he header value heq).trans hs.next
    · rw [helements, headerAfter_other hstep, State.file_tableHeader]
      exact hs.next

/-- **The step.** -/
theorem sourced_apply (hs : Sourced o s) (b : Block) : Sourced o (s.apply o b) := by
  have hcoherent := coherent_apply (o := o) hs.coherent b
  have hstep := step_apply o s b
  generalize s.apply o b = s' at hstep hcoherent
  cases hstep with
  | ignored => exact hs
  | titled => exact ⟨hcoherent, hs.bullets, hs.next⟩
  | entered => exact ⟨hcoherent, hs.bullets, hs.next⟩
  | divided => exact ⟨hcoherent, hs.bullets, hs.next⟩
  | named text =>
    -- the scenario that opens has no elements yet
    have hsame : (s.outline.scenarios ++ [({ name := Text.trim text } : Scenario)]).flatMap
        Scenario.elements = s.outline.elements := by
      rw [List.flatMap_append, List.flatMap_singleton, List.append_nil]
      rfl
    refine ⟨hcoherent, ?_, ?_⟩
    · show HeadersSourced _ (List.flatMap _ _)
      rw [hsame]
      exact hs.bullets
    · show s.tableHeader = headerAfter _ (List.flatMap _ _)
      rw [hsame]
      exact hs.next
  | remarked => exact ⟨hcoherent, hs.bullets, hs.next⟩
  | prepared => exact ⟨hcoherent, hs.bullets, hs.next⟩
  | commented => exact sourced_file hs rfl (by nofun)
  | stepped raw _ _ hopen =>
    obtain ⟨i, hactive⟩ := exists_active hopen
    have helements := elements_file hs.coherent hactive (.step (Sentence.clean raw))
    refine ⟨hcoherent, ?_, ?_⟩
    · show HeadersSourced _ (s.file _).outline.elements
      rw [helements]
      exact headersSourced_concat hs.bullets (by nofun)
    · show _ = headerAfter _ (s.file _).outline.elements
      rw [helements, headerAfter_step]
  | listed raw =>
    refine sourced_file hs rfl fun header value heq => ?_
    injection heq with heq
    exact heq.symm
  | tabled => exact sourced_file hs rfl (by nofun)

/-- **The run.** -/
theorem sourced_applyAll (hs : Sourced o s) (blocks : List Block) :
    Sourced o (s.applyAll o blocks) :=
  applyAll_preserves (P := Sourced o) (fun _ b hs => sourced_apply hs b) hs blocks

/-! ## Paragraphs that are not recorded -/

/-- A paragraph that adds no element after some blocks: it is no step, or no scenario is open. -/
def Unrecorded (o : Options) (before : List Block) (raw : Text) : Prop :=
  ((State.initial o).applyAll o (before ++ [.paragraph raw])).outline.elements
    = ((State.initial o).applyAll o before).outline.elements

/-- The state with other lines in its background. -/
def State.withBackground (s : State) (background : List Text) : State :=
  { s with outline := { s.outline with background := background } }

/-- Such a paragraph is a line of the background or nothing at all. -/
theorem apply_unrecorded {raw : Text} (hs : Coherent s)
    (h : (s.apply o (.paragraph raw)).outline.elements = s.outline.elements) :
    ∃ background, s.apply o (.paragraph raw) = s.withBackground background := by
  have hstep := step_apply o s (.paragraph raw)
  generalize s.apply o (.paragraph raw) = s' at hstep h
  cases hstep with
  | ignored => exact ⟨s.outline.background, rfl⟩
  | prepared => exact ⟨s.outline.background ++ [Sentence.clean raw], rfl⟩
  | stepped _ _ _ hopen =>
    obtain ⟨i, hactive⟩ := exists_active hopen
    have helements := elements_file hs hactive (.step (Sentence.clean raw))
    have hsame : (s.file (.step (Sentence.clean raw))).outline.elements = s.outline.elements := h
    rw [helements] at hsame
    exact absurd hsame (by simp)

/-- The lines of the background stand behind the pass: what comes does not look at them. -/
theorem exists_followedBy_background (s : State) (background : List Text) :
    ∃ base : State, base.outline.scenarios = [] ∧
      s.withBackground background = base.followedBy (s.withBackground []) := by
  refine ⟨{ outline := { title := s.outline.title, background := background },
            tableHeader := s.tableHeader }, rfl, ?_⟩
  simp [State.withBackground, State.followedBy]

theorem scenarios_applyAll_withBackground (s : State) (background : List Text)
    (blocks : List Block) :
    ((s.withBackground background).applyAll o blocks).outline.scenarios
      = ((s.withBackground []).applyAll o blocks).outline.scenarios := by
  obtain ⟨base, hbase, hsplit⟩ := exists_followedBy_background s background
  rw [hsplit, applyAll_followedBy]
  show base.outline.scenarios ++ _ = _
  rw [hbase, List.nil_append]

/-- A page has the same scenarios without a paragraph that is not recorded. -/
theorem scenarios_unrecorded {before : List Block} {raw : Text} (after : List Block)
    (h : Unrecorded o before raw) :
    (lastState o (before ++ .paragraph raw :: after)).outline.scenarios
      = (lastState o (before ++ after)).outline.scenarios := by
  have hs : Coherent ((State.initial o).applyAll o before) :=
    coherent_applyAll (coherent_initial o) before
  unfold Unrecorded at h
  unfold lastState
  rw [applyAll_append] at h
  rw [applyAll_append, applyAll_append]
  generalize (State.initial o).applyAll o before = s at h hs ⊢
  obtain ⟨background, hbackground⟩ := apply_unrecorded hs h
  calc ((s.apply o (.paragraph raw)).applyAll o after).outline.scenarios
      = ((s.withBackground background).applyAll o after).outline.scenarios := by rw [hbackground]
    _ = ((s.withBackground []).applyAll o after).outline.scenarios :=
      scenarios_applyAll_withBackground s background after
    _ = ((s.withBackground s.outline.background).applyAll o after).outline.scenarios :=
      (scenarios_applyAll_withBackground s s.outline.background after).symm
    _ = (s.applyAll o after).outline.scenarios := rfl

/-! ## Outlines -/

/-- **Every bullet has its header from the latest recorded step.**  In an outline that is extracted the
header of a bullet is inferred from the nearest step before it among the elements of all scenarios, and
is the fallback when there is none.  A paragraph that was not recorded has no influence at all: the
page without it is extracted as well and has the same scenarios, headers included. -/
theorem bullet_headers_sourced {blocks : List Block} {outline : Outline}
    (h : run o blocks = .ok outline) :
    (∀ before header value after, outline.elements = before ++ .bullet header value :: after →
      header = headerAfter o.defaultTableHeader before) ∧
    (∀ before raw after, blocks = before ++ .paragraph raw :: after →
      Unrecorded o.normalized before raw →
      ∃ outline', run o (before ++ after) = .ok outline' ∧
        outline'.scenarios = outline.scenarios) := by
  obtain ⟨text, htext, rfl⟩ := run_eq_ok_iff.1 h
  constructor
  · exact (sourced_applyAll (sourced_initial o.normalized) blocks).bullets
  · rintro before raw after rfl hunrecorded
    have hsame : lastTitle? (before ++ after) = some text := by
      rw [lastTitle?_append, lastTitle?_cons] at htext
      rw [lastTitle?_append]
      simpa [headingText?] using htext
    refine ⟨_, run_eq_ok_iff.2 ⟨text, hsame, rfl⟩, ?_⟩
    exact (scenarios_unrecorded after hunrecorded).symm

/-- A page up to a step-like paragraph that stands outside of features. -/
def notesBefore : List Block :=
  [ .heading 1 "Login".toList, .heading 2 "Feature".toList, .heading 3 "Scenarios".toList,
    .heading 4 "One".toList, .bullet "early".toList,
    .paragraph "Then I see the following errors:".toList, .bullet "locked".toList,
    .heading 2 "Notes".toList ]

/-- What follows on that page: another feature, where a scenario starts with a bullet. -/
def notesAfter : List Block :=
  [ .heading 2 "Feature".toList, .heading 3 "Scenarios".toList, .heading 4 "Two".toList,
    .bullet "expired".toList ]

/-- The paragraph itself, which would give another header. -/
def notesParagraph : Text := "Then the following rows are dropped".toList

/-- The outline of that page. -/
def notesOutline : Outline :=
  { title := "Login".toList
    scenarios :=
      [ { name := "One".toList
          elements :=
            [ .bullet "Elements".toList "early".toList,
              .step "Then I see the following errors:".toList,
              .bullet "Errors".toList "locked".toList ] },
        { name := "Two".toList, elements := [.bullet "Errors".toList "expired".toList] } ] }

/-- The bullet of the second scenario has its header from the step of the first one, and the page
without the paragraph has the same scenarios. -/
theorem notes_headers_sourced :
    run {} (notesBefore ++ .paragraph notesParagraph :: notesAfter) = .ok notesOutline ∧
    Sentence.headerOf notesParagraph defaultHeader = "Rows".toList ∧
    "Errors".toList
      = headerAfter defaultHeader
          [ .bullet "Elements".toList "early".toList,
            .step "Then I see the following errors:".toList,
            .bullet "Errors".toList "locked".toList ] ∧
    "Elements".toList = headerAfter defaultHeader [] ∧
    Unrecorded (Options.normalized {}) notesBefore notesParagraph ∧
    ∃ outline', run {} (notesBefore ++ notesAfter) = .ok outline' ∧
      outline'.scenarios = notesOutline.scenarios := by
  have hrun : run {} (notesBefore ++ .paragraph notesParagraph :: notesAfter) = .ok notesOutline :=
    toOption_run_eq_some_iff.1 (by decide +kernel)
  have hunrecorded : Unrecorded (Options.normalized {}) notesBefore notesParagraph := by
    unfold Unrecorded
    decide +kernel
  obtain ⟨hheaders, hparagraphs⟩ := bullet_headers_sourced hrun
  exact ⟨hrun, by decide +kernel, hheaders _ _ "expired".toList [] rfl,
    hheaders [] _ "early".toList _ rfl, hunrecorded, hparagraphs _ _ _ rfl hunrecorded⟩

end Scenarist.Extraction
