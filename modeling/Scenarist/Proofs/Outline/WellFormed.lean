/-
  Well-formed outlines — what every outline that is extracted looks like.

  1. **The form** — `OneLine` is the form of a step, `Table.Rectangular` that of a table, and
     `RichText.IsFlat` that of a comment.  `Element.WellFormed` and `Outline.WellFormed` put them
     together.

  2. **Texts** — whatever a page brings, cleaning makes it one trimmed line, filling up makes a
     rectangle of trimmed cells, and flattening a flat text.

  3. **The pass** — elements are settled once and for all where they are filed (`AllFiled`).  For the
     rest of the outline `Composed` is kept up by every block: what it adds is in form, and what was
     there before is left alone.
-/
import Scenarist.Proofs.Outline.Filed
import Scenarist.Proofs.Outline.Outcome
import Scenarist.Proofs.Page.FlatText

namespace Scenarist

/-! ## The form -/

/-- A trimmed text without line breaks. -/
structure OneLine (t : Text) : Prop where
  /-- There are no blanks at the ends. -/
  trimmed : Text.Trimmed t
  /-- There is no line feed. -/
  noFeed : '\n' ∉ t
  /-- There is no carriage return. -/
  noReturn : '\r' ∉ t

/-- A table with a cell, whose rows have one length and whose cells are trimmed. -/
structure Table.Rectangular (t : Table) : Prop where
  /-- There is a row. -/
  nonempty : t.rows ≠ []
  /-- The rows have one length, and it is not zero. -/
  width : ∃ n, 1 ≤ n ∧ ∀ row ∈ t.rows, row.length = n
  /-- No cell has blanks at its ends. -/
  trimmed : ∀ row ∈ t.rows, ∀ cell ∈ row, Text.Trimmed cell

/-- The form of the elements of a scenario. -/
def Element.WellFormed : Element → Prop
  | .step text => OneLine text ∧ Sentence.isStep text = true
  | .comment text => RichText.IsFlat text
  | .table t => t.Rectangular
  | .bullet _ value => value ≠ [] ∧ Text.Trimmed value

/-- The form of an outline. -/
structure Outline.WellFormed (o : Outline) : Prop where
  /-- The title is trimmed. -/
  title : Text.Trimmed o.title
  /-- Background steps are trimmed lines. -/
  background : ∀ line ∈ o.background, OneLine line
  /-- The names of scenarios are trimmed. -/
  names : ∀ sc ∈ o.scenarios, Text.Trimmed sc.name
  /-- The elements of scenarios have their forms. -/
  elements : ∀ sc ∈ o.scenarios, ∀ e ∈ sc.elements, e.WellFormed
  /-- Comments are flat texts, moved right by two spaces. -/
  comments : ∀ comment ∈ o.comments, ∃ text, comment = ' ' :: ' ' :: text ∧ RichText.IsFlat text

/-! ## Texts -/

theorem Sentence.oneLine_clean (raw : Text) : OneLine (Sentence.clean raw) := by
  have hkept : ∀ c ∈ Sentence.clean raw, (c != '\n' && c != '\r') = true := by
    intro c hc
    exact (List.mem_filter.1 (Text.mem_of_mem_trim hc)).2
  refine ⟨Text.trimmed_trim _, fun h => ?_, fun h => ?_⟩
  · exact absurd (hkept _ h) (by decide)
  · exact absurd (hkept _ h) (by decide)

theorem Table.rectangular_of_rows_ne_nil {t : Table} (h : t.rows ≠ []) : t.Rectangular := by
  have hnormal : ∀ row ∈ t.rows, row ∈ Table.normalRows t.rows := by
    intro row hrow
    rw [t.normal]
    exact hrow
  have hlength : ∀ row ∈ t.rows, row.length = Table.width (Table.trimmedRows t.rows) :=
    fun row hrow => Table.length_of_mem_normalRows (hnormal row hrow)
  refine ⟨h, ⟨_, ?_, hlength⟩, fun row hrow cell hcell => ?_⟩
  · obtain ⟨row, hrow⟩ := List.exists_mem_of_ne_nil _ h
    rw [← hlength row hrow]
    exact List.length_pos_iff.2 (Table.ne_nil_of_mem_normalRows (hnormal row hrow))
  · exact Text.trimmed_iff.2 (Table.trim_of_mem_normalRows (hnormal row hrow) hcell)

end Scenarist

namespace Scenarist.Extraction

variable {o : Options} {s : State}

/-! ## The elements -/

/-- All that a pass files has its form, whatever the headers of bullets are. -/
theorem admits_wellFormed (o : Options) : Admits o Element.WellFormed fun _ => True where
  comment := RichText.isFlat_flatten
  step := fun raw hstep => ⟨Sentence.oneLine_clean raw, hstep⟩
  bullet := fun _ raw _ hne => ⟨hne, Text.trimmed_trim raw⟩
  table := fun _ hne => Table.rectangular_of_rows_ne_nil (List.isEmpty_eq_false_iff.1 hne)
  fallback := trivial
  inferred := fun _ => trivial

/-! ## The rest of the outline -/

/-- What a pass keeps up about the outline besides the elements. -/
structure Composed (s : State) : Prop where
  /-- Background steps are trimmed lines. -/
  background : ∀ line ∈ s.outline.background, OneLine line
  /-- The names of scenarios are trimmed. -/
  names : ∀ sc ∈ s.outline.scenarios, Text.Trimmed sc.name
  /-- Comments are flat texts, moved right by two spaces. -/
  comments : ∀ comment ∈ s.outline.comments,
    ∃ text, comment = ' ' :: ' ' :: text ∧ RichText.IsFlat text

theorem composed_initial (o : Options) : Composed (State.initial o) := ⟨by nofun, by nofun, by nofun⟩

/-- Filing adds an element and nothing else. -/
theorem composed_file (hs : Composed s) (e : Element) : Composed (s.file e) := by
  refine ⟨?_, fun sc hsc => ?_, ?_⟩
  · rw [State.file_background]
    exact hs.background
  · obtain ⟨old, hold, rfl | rfl⟩ := State.exists_of_mem_scenarios_file hsc
    · exact hs.names sc hold
    · exact hs.names old hold
  · rw [State.file_comments]
    exact hs.comments

/-- **The step.** -/
theorem composed_apply (hs : Composed s) (b : Block) : Composed (s.apply o b) := by
  have hstep := step_apply o s b
  generalize s.apply o b = s' at hstep
  cases hstep with
  | ignored => exact hs
  | titled => exact ⟨hs.background, hs.names, hs.comments⟩
  | entered => exact ⟨hs.background, hs.names, hs.comments⟩
  | divided => exact ⟨hs.background, hs.names, hs.comments⟩
  | named text =>
    refine ⟨hs.background, fun sc hsc => ?_, hs.comments⟩
    rcases List.mem_append.1 hsc with hsc | hsc
    · exact hs.names sc hsc
    · obtain rfl := List.mem_singleton.1 hsc
      exact Text.trimmed_trim text
  | remarked content =>
    refine ⟨hs.background, hs.names, fun comment hcomment => ?_⟩
    rcases List.mem_append.1 hcomment with hcomment | hcomment
    · exact hs.comments comment hcomment
    · obtain rfl := List.mem_singleton.1 hcomment
      exact ⟨RichText.flatten content, rfl, RichText.isFlat_flatten content⟩
  | prepared raw =>
    refine ⟨fun line hline => ?_, hs.names, hs.comments⟩
    rcases List.mem_append.1 hline with hline | hline
    · exact hs.background line hline
    · obtain rfl := List.mem_singleton.1 hline
      exact Sentence.oneLine_clean raw
  | commented content => exact composed_file hs _
  | stepped raw =>
    have hfile := composed_file hs (.step (Sentence.clean raw))
    exact ⟨hfile.background, hfile.names, hfile.comments⟩
  | listed => exact composed_file hs _
  | tabled => exact composed_file hs _

/-- **The run.** -/
theorem composed_applyAll (hs : Composed s) (blocks : List Block) :
    Composed (s.applyAll o blocks) :=
  applyAll_preserves (P := Composed) (fun _ b hs => composed_apply hs b) hs blocks

/-! ## Outlines -/

/-- **Every outline that is extracted is well formed.**  Its title and the names of its scenarios are
trimmed; background steps and steps are trimmed lines, and steps open with a keyword; values of bullets
are trimmed and not empty; tables are rectangles of trimmed cells; comments are flat texts, those of the
feature moved right by two spaces. -/
theorem wellFormed_of_run {blocks : List Block} {outline : Outline}
    (h : run o blocks = .ok outline) : outline.WellFormed := by
  have helements := forall_elements_of_run (admits_wellFormed o.normalized) h
  obtain ⟨text, -, rfl⟩ := run_eq_ok_iff.1 h
  have hs : Composed (lastState o.normalized blocks) :=
    composed_applyAll (composed_initial o.normalized) blocks
  exact {
    title := Text.trimmed_trim text
    background := hs.background
    names := hs.names
    elements := helements
    comments := hs.comments }

/-- A page on which every kind of content has something to be taken away. -/
def untidyPage : List Block :=
  [ .heading 1 "  Login\t".toList,
    .quote [.container [.text " first".toList], .lineBreak, .lineBreak, .text "second ".toList],
    .heading 2 "FEATURE ".toList, .heading 3 "Background".toList,
    .paragraph "\n Given [the\r\napp](u) is open ".toList, .paragraph " ".toList,
    .heading 3 "Scenarios".toList, .heading 4 " One ".toList,
    .paragraph "\tWhen [I](u)\n log in\n".toList,
    .table [[" a ".toList], [], ["b".toList, " c".toList]], .table [[], []],
    .bullet " expired\n".toList, .bullet " \n".toList,
    .quote [.text "x".toList, .container [], .container [], .text "y\n\n".toList] ]

/-- Its outline. -/
def tidiedOutline : Outline :=
  { title := "Login".toList
    background := ["Given theapp is open".toList, []]
    scenarios :=
      [ { name := "One".toList
          elements :=
            [ .step "When I log in".toList,
              .table (Table.ofRows [["a".toList, []], ["b".toList, "c".toList]]),
              .bullet "Elements".toList "expired".toList,
              .comment "x\n  y".toList ] } ]
    comments := ["  first\n  second".toList] }

/-- All of it is gone from the outline. -/
theorem tidiedOutline_wellFormed :
    run {} untidyPage = .ok tidiedOutline ∧ tidiedOutline.WellFormed := by
  have hrun : run {} untidyPage = .ok tidiedOutline :=
    toOption_run_eq_some_iff.1 (by decide +kernel)
  exact ⟨hrun, wellFormed_of_run hrun⟩

end Scenarist.Extraction
