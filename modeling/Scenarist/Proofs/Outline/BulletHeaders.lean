/-
  Bullet headers — no header of a one-column table is lost or wrong.

  1. **The difficulty.**  The header for bullets is part of the state: it outlives scenarios and
     sections, and the renderer prints it only for the first of consecutive bullets.  So two bullets
     next to each other had better have the same one.

  2. **The invariant (`Tidy`)** — in every scenario neighbouring bullets have one header, and when
     the open scenario ends in a bullet, that bullet's header is the one the next bullet will get.
     The header changes only together with a step that is filed in the open scenario, which then no
     longer ends in a bullet; and a scenario that is newly opened has no elements yet.

  3. **The runs** — a maximal run of bullets therefore has one header, and `Feature.elementTexts`
     writes it as one header row and a row for each value, whatever tables are dropped around it.
-/
import Scenarist.Proofs.Feature.Repeats
import Scenarist.Proofs.Outline.Filing
import Scenarist.Proofs.Outline.Outcome

namespace Scenarist.Extraction

/-! ## The invariant -/

/-- Two elements do not both stand as bullets under different headers. -/
def SameHeader : Element → Element → Prop
  | .bullet header _, .bullet header' _ => header = header'
  | _, _ => True

/-- Neighbouring bullets have one header. -/
def HeadersAgree (es : List Element) : Prop := List.IsChain SameHeader es

/-- What a pass keeps up about the headers of bullets. -/
structure Tidy (s : State) : Prop where
  /-- In every scenario neighbouring bullets have one header. -/
  agree : ∀ sc ∈ s.outline.scenarios, HeadersAgree sc.elements
  /-- A bullet that ends the open scenario has the header of the next one. -/
  last : ∀ i sc header value, s.active = some i → s.outline.scenarios[i]? = some sc →
    sc.elements.getLast? = some (.bullet header value) → header = s.tableHeader

variable {o : Options} {s : State} {e : Element} {header : Text}

theorem sameHeader_of_not_bullet {d : Element} (h : ∀ header value, e ≠ .bullet header value) :
    SameHeader d e := by
  cases e with
  | bullet header value => exact absurd rfl (h header value)
  | _ => cases d <;> trivial

theorem headersAgree_concat {es : List Element} (hes : HeadersAgree es)
    (he : ∀ d ∈ es.getLast?, SameHeader d e) : HeadersAgree (es ++ [e]) := by
  refine List.isChain_append.2 ⟨hes, List.isChain_singleton e, fun d hd y hy => ?_⟩
  obtain rfl : e = y := by simpa using hy
  exact he d hd

/-! ## One more block -/

theorem tidy_initial (o : Options) : Tidy (State.initial o) where
  agree := by nofun
  last := by nofun

/-- A state without an open scenario is tidy if its scenarios are. -/
theorem tidy_of_closed (h : ∀ sc ∈ s.outline.scenarios, HeadersAgree sc.elements)
    (hactive : s.active = none) : Tidy s where
  agree := h
  last := by intro i sc header value hi; rw [hactive] at hi; nomatch hi

/-- **Filing keeps a state tidy**, also when the header for bullets changes with it: a bullet must be
filed under the header that was and stays in force. -/
theorem tidy_file (hs : Tidy s)
    (he : ∀ h value, e = .bullet h value → h = s.tableHeader ∧ h = header) :
    Tidy { s.file e with tableHeader := header } := by
  cases hactive : s.active with
  | none =>
    rw [State.file_of_none e hactive]
    exact tidy_of_closed hs.agree hactive
  | some i =>
    rw [State.file_of_some e hactive]
    constructor
    · intro sc hsc
      obtain ⟨k, hk⟩ := List.mem_iff_getElem?.1 hsc
      rw [List.getElem?_modify] at hk
      obtain ⟨sc', hk', rfl⟩ := Option.map_eq_some_iff.1 hk
      have hagree := hs.agree sc' (List.mem_of_getElem? hk')
      -- only the open scenario gets the element
      by_cases hik : i = k
      · subst hik
        rw [if_pos rfl]
        refine headersAgree_concat hagree fun d hd => ?_
        cases e with
        | bullet h value =>
          cases d with
          | bullet h' value' =>
            show h' = h
            rw [hs.last i sc' h' value' hactive hk' hd, (he h value rfl).1]
          | _ => trivial
        | _ => exact sameHeader_of_not_bullet (by nofun)
      · rw [if_neg hik]
        exact hagree
    · intro j sc h value hj hsc hlast
      obtain rfl : i = j := by simpa [hactive] using hj
      rw [List.getElem?_modify] at hsc
      obtain ⟨sc', _, rfl⟩ := Option.map_eq_some_iff.1 hsc
      rw [if_pos rfl, List.getLast?_concat] at hlast
      injection hlast with hlast
      exact (he h value hlast).2

theorem tidy_file_same (hs : Tidy s) (he : ∀ h value, e = .bullet h value → h = s.tableHeader) :
    Tidy (s.file e) := by
  have h : Tidy { s.file e with tableHeader := s.tableHeader } :=
    tidy_file hs fun h value heq => ⟨he h value heq, he h value heq⟩
  rw [← State.file_tableHeader s e] at h
  exact h

/-- **The step.** -/
theorem tidy_apply (hs : Tidy s) (b : Block) : Tidy (s.apply o b) := by
  have hstep := step_apply o s b
  generalize s.apply o b = s' at hstep
  cases hstep with
  | ignored => exact hs
  | titled => exact ⟨hs.agree, hs.last⟩
  | entered => exact tidy_of_closed hs.agree rfl
  | divided => exact tidy_of_closed hs.agree rfl
  | named =>
    -- the scenario that opens is the last one, and it is empty
    refine ⟨fun sc hsc => ?_, fun i sc header value hi hsc hlast => ?_⟩
    · rcases List.mem_append.1 hsc with hsc | hsc
      · exact hs.agree sc hsc
      · obtain rfl := List.mem_singleton.1 hsc
        exact List.isChain_nil
    · obtain rfl : s.outline.scenarios.length = i := by simpa using hi
      rw [List.getElem?_concat_length] at hsc
      injection hsc with hsc
      subst hsc
      cases hlast
  | remarked => exact ⟨hs.agree, hs.last⟩
  | prepared => exact ⟨hs.agree, hs.last⟩
  | commented => exact tidy_file_same hs (by nofun)
  | stepped => exact tidy_file hs (by nofun)
  | listed =>
    refine tidy_file_same hs fun h value heq => ?_
    injection heq with heq
    exact heq.symm
  | tabled => exact tidy_file_same hs (by nofun)

/-- **The run.** -/
theorem tidy_applyAll (hs : Tidy s) (blocks : List Block) : Tidy (s.applyAll o blocks) :=
  applyAll_preserves (P := Tidy) (fun _ b hs => tidy_apply hs b) hs blocks

/-! ## Outlines -/

/-- An outline that is extracted is the outline of the last state, with its title filled in. -/
theorem scenarios_of_run {blocks : List Block} {outline : Outline}
    (h : run o blocks = .ok outline) :
    outline.scenarios
      = ((State.initial o.normalized).applyAll o.normalized blocks).outline.scenarios := by
  obtain ⟨text, -, rfl⟩ := run_eq_ok_iff.1 h
  rfl

theorem headersAgree_of_run {blocks : List Block} {outline : Outline}
    (h : run o blocks = .ok outline) : ∀ sc ∈ outline.scenarios, HeadersAgree sc.elements := by
  rw [scenarios_of_run h]
  exact (tidy_applyAll (tidy_initial o.normalized) blocks).agree

/-- Bullets that agree on their headers are the values under one header. -/
theorem eq_map_bullet {run : List Element} (hb : ∀ e ∈ run, Feature.isBullet e = true)
    (hagree : HeadersAgree run) (hne : run ≠ []) :
    ∃ header values, values ≠ [] ∧ run = values.map (Element.bullet header) := by
  induction run with
  | nil => exact absurd rfl hne
  | cons e rest ih =>
    cases e with
    | bullet header value =>
      cases rest with
      | nil => exact ⟨header, [value], List.cons_ne_nil _ _, rfl⟩
      | cons d rest =>
        obtain ⟨hsame, hrest⟩ := List.isChain_cons_cons.1 hagree
        obtain ⟨header', values, _, heq⟩ :=
          ih (fun a ha => hb a (List.mem_cons_of_mem _ ha)) hrest (List.cons_ne_nil _ _)
        cases values with
        | nil => nomatch heq
        | cons v values =>
          obtain rfl : d = .bullet header' v := (List.cons.inj heq).1
          obtain rfl : header = header' := hsame
          exact ⟨header, value :: v :: values, List.cons_ne_nil _ _, by rw [heq]; rfl⟩
    | _ => nomatch hb _ (List.mem_cons_self ..)

/-- **Every run of bullets is written under its own header.**  In each scenario of an outline that is
extracted, a maximal run of bullets has one header.  Dropping repeated tables keeps the run whole and
maximal, and among the texts of the scenario the run stands by itself: one header row, then one row
for each value in order.  Wherever bullets are still neighbours once tables are dropped, their
headers are the same, so leaving the second one out loses nothing. -/
theorem bullet_runs_written {o : Options} {blocks : List Block} {outline : Outline}
    (h : run o blocks = .ok outline) :
    ∀ sc ∈ outline.scenarios,
      HeadersAgree sc.elements ∧ HeadersAgree (Feature.dropRepeats sc.elements) ∧
      ∀ before run after, sc.elements = before ++ run ++ after →
        Feature.MaximalRun before run after →
        ∃ header values, run = values.map (Element.bullet header) ∧
          Feature.dropRepeats sc.elements
            = Feature.dropRepeats before ++ run ++ Feature.dropRepeats after ∧
          Feature.MaximalRun (Feature.dropRepeats before) run (Feature.dropRepeats after) ∧
          Feature.elementTexts sc.elements
            = Feature.elementTexts before ++ Feature.bulletTexts header values
              ++ Feature.elementTexts after ∧
          Text.unlines (Feature.bulletTexts header values)
            = Text.unlines
                ((header :: values).map fun cell => "    | ".toList ++ cell ++ " |".toList) := by
  intro sc hsc
  have hagree := headersAgree_of_run h sc hsc
  refine ⟨hagree, Feature.isChain_dropRepeats hagree, fun before run after hsplit hmax => ?_⟩
  have hrun : HeadersAgree run := by
    unfold HeadersAgree at hagree
    rw [hsplit] at hagree
    exact hagree.left_of_append.right_of_append
  obtain ⟨header, values, hne, hvalues⟩ := eq_map_bullet hmax.bullets hrun hmax.nonempty
  subst hvalues
  rw [hsplit]
  exact ⟨header, values, rfl, Feature.dropRepeats_run hmax, hmax.dropRepeats,
    Feature.elementTexts_run hmax, Feature.unlines_bulletTexts header values hne⟩

/-- A page whose two runs of bullets are kept apart by a table that stands twice. -/
def errorsPage : List Block :=
  [ .heading 1 "Login".toList, .heading 2 "Feature".toList, .heading 3 "Scenarios".toList,
    .heading 4 "Locked".toList, .bullet "before any step".toList,
    .paragraph "Then I see the following errors".toList, .bullet "locked".toList,
    .table [["a".toList]], .table [["a ".toList], []], .bullet "expired".toList,
    .bullet "unknown".toList ]

/-- The elements of its scenario up to the second run under `Errors`. -/
def errorsBefore : List Element :=
  [ .bullet "Elements".toList "before any step".toList,
    .step "Then I see the following errors".toList, .bullet "Errors".toList "locked".toList,
    .table (Table.ofRows [["a".toList]]), .table (Table.ofRows [["a".toList]]) ]

/-- The second run under `Errors`. -/
def errorsRun : List Element :=
  [.bullet "Errors".toList "expired".toList, .bullet "Errors".toList "unknown".toList]

/-- One of the two tables is dropped, and the run after it is still written with its header. -/
theorem errorsPage_runs_written :
    run {} errorsPage
        = .ok { title := "Login".toList
                scenarios := [{ name := "Locked".toList, elements := errorsBefore ++ errorsRun ++ [] }] } ∧
      Feature.MaximalRun errorsBefore errorsRun [] ∧
      Feature.dropRepeats errorsBefore = errorsBefore.take 4 ∧
      ∃ header values, errorsRun = values.map (Element.bullet header) ∧
        Feature.dropRepeats (errorsBefore ++ errorsRun ++ [])
          = Feature.dropRepeats errorsBefore ++ errorsRun ++ Feature.dropRepeats [] ∧
        Feature.MaximalRun (Feature.dropRepeats errorsBefore) errorsRun (Feature.dropRepeats []) ∧
        Feature.elementTexts (errorsBefore ++ errorsRun ++ [])
          = Feature.elementTexts errorsBefore ++ Feature.bulletTexts header values
            ++ Feature.elementTexts [] ∧
        Text.unlines (Feature.bulletTexts header values)
          = Text.unlines
              ((header :: values).map fun cell => "    | ".toList ++ cell ++ " |".toList) := by
  have hrun : run {} errorsPage
      = .ok { title := "Login".toList
              scenarios :=
                [{ name := "Locked".toList, elements := errorsBefore ++ errorsRun ++ [] }] } := by
    have h : (run {} errorsPage).toOption
        = some { title := "Login".toList
                 scenarios :=
                  [{ name := "Locked".toList, elements := errorsBefore ++ errorsRun ++ [] }] } := by
      decide +kernel
    cases hr : run {} errorsPage with
    | error failure => rw [hr] at h; nomatch h
    | ok outline => rw [hr] at h; exact congrArg Except.ok (Option.some.inj h)
  have hmax : Feature.MaximalRun errorsBefore errorsRun [] :=
    ⟨by decide, by decide, by decide, by decide⟩
  obtain ⟨_, _, hruns⟩ := bullet_runs_written hrun _ (List.mem_cons_self ..)
  exact ⟨hrun, hmax, by decide, hruns errorsBefore errorsRun [] rfl hmax⟩

end Scenarist.Extraction
