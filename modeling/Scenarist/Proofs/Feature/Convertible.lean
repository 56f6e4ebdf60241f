/-
  Convertible pages — which pages become a feature, and how the others fail.

  1. **Specification** — a page has to be `Titled`: its last level-1 heading shows something.  And it
     has to hold a background step, even an empty one, or a scenario, each in its section of a feature.
     All three look back over the page from where something stands.

  2. **The outcome** — the title that is missing altogether is the only thing that extraction itself
     refuses.  A title that is blank, and an outline with nothing to run, are found out by
     `Outline.isValid` (`isValid_lastState_iff`), whose three conditions are the three of the
     specification.
-/
import Scenarist.Feature.Render
import Scenarist.Proofs.Outline.Outcome
import Scenarist.Proofs.Outline.Pass
import Scenarist.Proofs.Text.Trim

namespace Scenarist.Feature

open Extraction

variable {o : Options} {blocks : List Block} {text : Text}

/-! ## Specification -/

/-- The last level-1 heading has a character that is no blank. -/
def Titled (blocks : List Block) : Prop :=
  ∃ before text after, blocks = before ++ .heading 1 text :: after ∧
    (∀ t, .heading 1 t ∉ after) ∧ ∃ c ∈ text, Text.isBlank c = false

/-- A paragraph stands in a background section of a feature. -/
def HasBackground (o : Options) (blocks : List Block) : Prop :=
  ∃ i raw, blocks[i]? = some (.paragraph raw) ∧ sectionAt o blocks i = .background

/-- A level-4 heading stands in a scenarios section of a feature. -/
def HasScenario (o : Options) (blocks : List Block) : Prop :=
  ∃ i name, blocks[i]? = some (.heading 4 name) ∧ sectionAt o blocks i = .scenarios

/-- What a page needs to become a feature. -/
def Convertible (o : Options) (blocks : List Block) : Prop :=
  Titled blocks ∧ (HasBackground o blocks ∨ HasScenario o blocks)

/-! ## The outline of the last state -/

theorem titled_iff : Titled blocks ↔ ∃ text, lastTitle? blocks = some text ∧ Text.trim text ≠ [] := by
  have hblank : ∀ text, (∃ c ∈ text, Text.isBlank c = false) ↔ Text.trim text ≠ [] := by
    intro text
    rw [Ne, Text.trim_eq_nil_iff]
    simp
  constructor
  · rintro ⟨before, text, after, hsplit, hafter, hshown⟩
    exact ⟨text, lastTitle?_eq_some_iff.2 ⟨before, after, hsplit, hafter⟩, (hblank text).1 hshown⟩
  · rintro ⟨text, htext, hshown⟩
    obtain ⟨before, after, hsplit, hafter⟩ := lastTitle?_eq_some_iff.1 htext
    exact ⟨before, text, after, hsplit, hafter, (hblank text).2 hshown⟩

/-- Something is collected from the places of a page exactly when some block gives something. -/
theorem filterMap_places_ne_nil_iff {α : Type} {f : Nat → Option α}
    (hf : ∀ i, f i ≠ none → blocks[i]? ≠ none) :
    (List.range blocks.length).filterMap f ≠ [] ↔ ∃ i, f i ≠ none := by
  rw [Ne, List.filterMap_eq_nil_iff]
  constructor
  · intro h
    obtain ⟨i, hi⟩ := not_forall.1 h
    exact ⟨i, fun hnone => hi fun _ => hnone⟩
  · rintro ⟨i, hi⟩ h
    have hlt : i < blocks.length := by
      by_contra hge
      exact hf i hi (List.getElem?_eq_none_iff.2 (Nat.le_of_not_lt hge))
    exact hi (h i (List.mem_range.2 hlt))

theorem background?_ne_none_iff {i : Nat} :
    background? o blocks i ≠ none ↔
      ∃ raw, blocks[i]? = some (.paragraph raw) ∧ sectionAt o blocks i = .background := by
  unfold background?
  split
  · next raw hraw => simp [hraw]
  · next hother =>
    refine iff_of_false (fun h => h rfl) ?_
    rintro ⟨raw, hraw, -⟩
    exact hother raw hraw

theorem scenarioName?_ne_none_iff {i : Nat} :
    scenarioName? o blocks i ≠ none ↔
      ∃ name, blocks[i]? = some (.heading 4 name) ∧ sectionAt o blocks i = .scenarios := by
  by_cases hb : ∃ name, blocks[i]? = some (.heading 4 name)
  · obtain ⟨name, hb⟩ := hb
    rw [scenarioName?_four hb]
    simp [hb]
  · have hother : ∀ name, blocks[i]? ≠ some (.heading 4 name) := fun name h => hb ⟨name, h⟩
    rw [scenarioName?_other hother]
    refine iff_of_false (fun h => h rfl) ?_
    rintro ⟨name, hname, -⟩
    exact hother name hname

theorem background_ne_nil_iff :
    (lastState o blocks).outline.background ≠ [] ↔ HasBackground o blocks := by
  have hlast : (lastState o blocks).outline.background
      = (List.range blocks.length).filterMap (background? o blocks) := by
    rw [lastState, applyAll_initial]
    rfl
  rw [hlast, filterMap_places_ne_nil_iff]
  · exact exists_congr fun i => background?_ne_none_iff
  · intro i hi hnone
    obtain ⟨raw, hraw, -⟩ := background?_ne_none_iff.1 hi
    rw [hraw] at hnone
    cases hnone

theorem scenarios_ne_nil_iff :
    (lastState o blocks).outline.scenarios ≠ [] ↔ HasScenario o blocks := by
  have hlast : (lastState o blocks).outline.scenarios ≠ []
      ↔ scenarioHeadings o blocks blocks.length ≠ [] := by
    rw [lastState, applyAll_initial]
    exact not_congr List.map_eq_nil_iff
  have hname : ∀ i, ((scenarioName? o blocks i).map fun name => (i, name)) ≠ none
      ↔ scenarioName? o blocks i ≠ none := fun i => not_congr Option.map_eq_none_iff
  rw [hlast, scenarioHeadings, filterMap_places_ne_nil_iff]
  · exact exists_congr fun i => (hname i).trans scenarioName?_ne_none_iff
  · intro i hi hnone
    obtain ⟨name, hheading, -⟩ := scenarioName?_ne_none_iff.1 ((hname i).1 hi)
    rw [hheading] at hnone
    cases hnone

/-! ## The outcome -/

theorem convert_run (o : Options) (blocks : List Block) :
    convert (Extraction.run o blocks).toOption
      = convert ((lastTitle? blocks).map fun text =>
          { (lastState o.normalized blocks).outline with title := Text.trim text }) := by
  rw [toOption_run, finish_lastState]

/-- An outline under the last title can be written exactly when the page has what it takes. -/
theorem isValid_lastState_iff (htext : lastTitle? blocks = some text) :
    ({ (lastState o blocks).outline with title := Text.trim text } : Outline).isValid = true ↔
      Convertible o blocks := by
  have htitle : Titled blocks ↔ Text.trim text ≠ [] := by
    rw [titled_iff, htext]
    simp
  unfold Convertible
  rw [htitle, ← background_ne_nil_iff, ← scenarios_ne_nil_iff]
  simp [Outline.isValid]

theorem convert_of_convertible (h : Convertible o.normalized blocks) :
    ∃ feature, convert (Extraction.run o blocks).toOption = .ok feature := by
  obtain ⟨text, htext, -⟩ := titled_iff.1 h.1
  rw [convert_run, htext]
  exact ⟨_, if_pos ((isValid_lastState_iff htext).2 h)⟩

theorem convert_of_untitled (h : ∀ text, .heading 1 text ∉ blocks) :
    convert (Extraction.run o blocks).toOption = .error .missingContent := by
  rw [convert_run, lastTitle?_eq_none_iff.2 h]
  rfl

theorem convert_of_unconvertible (htitle : ∃ text, .heading 1 text ∈ blocks)
    (h : ¬ Convertible o.normalized blocks) :
    convert (Extraction.run o blocks).toOption = .error .invalidContent := by
  cases htext : lastTitle? blocks with
  | none =>
    obtain ⟨text, hmem⟩ := htitle
    exact absurd hmem (lastTitle?_eq_none_iff.1 htext text)
  | some text =>
    rw [convert_run, htext]
    exact if_neg fun hvalid => h ((isValid_lastState_iff htext).1 hvalid)

/-- A page that converts has a level-1 heading. -/
theorem exists_title_of_convertible (h : Convertible o blocks) :
    ∃ text, .heading 1 text ∈ blocks := by
  obtain ⟨before, text, after, rfl, -⟩ := h.1
  exact ⟨text, by simp⟩

/-- **Which pages convert.**  A page becomes a feature exactly when its last level-1 heading shows
something and a paragraph stands in a background section or a level-4 heading in a scenarios section of
a feature.  Content is missing exactly when there is no level-1 heading, as on the empty page; every
other page that does not convert has invalid content. -/
theorem convertible_pages (o : Options) (blocks : List Block) :
    let outcome := convert (Extraction.run o blocks).toOption
    ((∃ feature, outcome = .ok feature) ↔
      Titled blocks ∧ (HasBackground o.normalized blocks ∨ HasScenario o.normalized blocks)) ∧
    (outcome = .error .missingContent ↔ ∀ text, .heading 1 text ∉ blocks) ∧
    (outcome = .error .invalidContent ↔
      (∃ text, .heading 1 text ∈ blocks) ∧
      ¬ (Titled blocks ∧ (HasBackground o.normalized blocks ∨ HasScenario o.normalized blocks))) := by
  intro outcome
  by_cases htitle : ∃ text, .heading 1 text ∈ blocks
  · have hsome : ¬ ∀ text, .heading 1 text ∉ blocks := by
      obtain ⟨text, hmem⟩ := htitle
      exact fun h => h text hmem
    by_cases h : Convertible o.normalized blocks
    · obtain ⟨feature, hok⟩ : ∃ feature, outcome = .ok feature := convert_of_convertible h
      rw [hok]
      exact ⟨iff_of_true ⟨feature, rfl⟩ h, iff_of_false (by nofun) hsome,
        iff_of_false (by nofun) fun hnot => hnot.2 h⟩
    · have hinvalid : outcome = .error .invalidContent := convert_of_unconvertible htitle h
      rw [hinvalid]
      exact ⟨iff_of_false (by nofun) h, iff_of_false (by nofun) hsome, iff_of_true rfl ⟨htitle, h⟩⟩
  · have hnone : ∀ text, .heading 1 text ∉ blocks := fun text hmem => htitle ⟨text, hmem⟩
    have hmissing : outcome = .error .missingContent := convert_of_untitled hnone
    have h : ¬ Convertible o.normalized blocks := fun h => htitle (exists_title_of_convertible h)
    rw [hmissing]
    exact ⟨iff_of_false (by nofun) h, iff_of_true rfl hnone,
      iff_of_false (by nofun) fun hnot => htitle hnot.1⟩

end Scenarist.Feature
