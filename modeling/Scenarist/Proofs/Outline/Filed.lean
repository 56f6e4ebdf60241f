/-
  Filed elements — what holds of every element of an outline.

  An element is filed once and stays as it is, so a property of all elements only has to be checked
  for the five things that a pass can file.  A bullet takes its header from the state; what is asked
  of headers is asked of the fallback and of those that steps bring.
-/
import Scenarist.Proofs.Outline.BulletHeaders
import Scenarist.Proofs.Outline.Steps

namespace Scenarist.Extraction

/-- All that a pass can file has property `P`, if headers have property `H`. -/
structure Admits (o : Options) (P : Element → Prop) (H : Text → Prop) : Prop where
  /-- Comments. -/
  comment : ∀ content, P (.comment (RichText.flatten content))
  /-- Steps. -/
  step : ∀ raw, Sentence.isStep (Sentence.clean raw) = true → P (.step (Sentence.clean raw))
  /-- Bullets. -/
  bullet : ∀ header raw, H header → Text.trim raw ≠ [] → P (.bullet header (Text.trim raw))
  /-- Tables. -/
  table : ∀ rows, (Table.ofRows rows).isEmpty = false → P (.table (Table.ofRows rows))
  /-- The header when no step gives one. -/
  fallback : H o.defaultTableHeader
  /-- The headers that steps give. -/
  inferred : ∀ raw, H (Sentence.headerOf (Sentence.clean raw) o.defaultTableHeader)

/-- The elements of a state have property `P`, its header has property `H`. -/
structure AllFiled (P : Element → Prop) (H : Text → Prop) (s : State) : Prop where
  /-- The elements of all scenarios. -/
  elements : ∀ sc ∈ s.outline.scenarios, ∀ e ∈ sc.elements, P e
  /-- The header for the next bullets. -/
  header : H s.tableHeader

variable {o : Options} {s : State} {P : Element → Prop} {H : Text → Prop}

theorem allFiled_file {e : Element} (hs : AllFiled P H s) (he : P e) : AllFiled P H (s.file e) where
  elements := by
    intro sc hsc d hd
    rcases State.mem_elements_file hsc hd with rfl | ⟨old, hold, hd⟩
    · exact he
    · exact hs.elements old hold d hd
  header := by
    rw [State.file_tableHeader]
    exact hs.header

/-- **The step.** -/
theorem allFiled_apply (hadmits : Admits o P H) (hs : AllFiled P H s) (b : Block) :
    AllFiled P H (s.apply o b) := by
  have hstep := step_apply o s b
  generalize s.apply o b = s' at hstep
  cases hstep with
  | ignored => exact hs
  | titled => exact ⟨hs.elements, hs.header⟩
  | entered => exact ⟨hs.elements, hs.header⟩
  | divided => exact ⟨hs.elements, hs.header⟩
  | named =>
    refine ⟨fun sc hsc e he => ?_, hs.header⟩
    rcases List.mem_append.1 hsc with hsc | hsc
    · exact hs.elements sc hsc e he
    · obtain rfl := List.mem_singleton.1 hsc
      cases he
  | remarked => exact ⟨hs.elements, hs.header⟩
  | prepared => exact ⟨hs.elements, hs.header⟩
  | commented content => exact allFiled_file hs (hadmits.comment content)
  | stepped raw _ hraw =>
    exact ⟨(allFiled_file hs (hadmits.step raw hraw)).elements, hadmits.inferred raw⟩
  | listed raw _ hne => exact allFiled_file hs (hadmits.bullet _ raw hs.header hne)
  | tabled rows _ _ hne => exact allFiled_file hs (hadmits.table rows hne)

/-- **The run.** -/
theorem allFiled_applyAll (hadmits : Admits o P H) (hs : AllFiled P H s) (blocks : List Block) :
    AllFiled P H (s.applyAll o blocks) :=
  applyAll_preserves (P := AllFiled P H) (fun _ b hs => allFiled_apply hadmits hs b) hs blocks

/-- All elements of an outline that is extracted have what a pass files only with. -/
theorem forall_elements_of_run {blocks : List Block} {outline : Outline}
    (hadmits : Admits o.normalized P H) (h : run o blocks = .ok outline) :
    ∀ sc ∈ outline.scenarios, ∀ e ∈ sc.elements, P e := by
  have hinitial : AllFiled P H (State.initial o.normalized) := ⟨by nofun, hadmits.fallback⟩
  rw [scenarios_of_run h]
  exact (allFiled_applyAll hadmits hinitial blocks).elements

end Scenarist.Extraction
