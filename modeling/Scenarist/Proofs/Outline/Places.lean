/-
  Places — what the headings before a place of a page say about it.

  1. **Places.**  Block `i` of a page stands at place `i`.  Everything here is read off by looking
     back from a place; nothing is carried from one block to the next.

  2. **Nearest headings.**  The nearest level-2 heading decides whether a place is in a feature.
     Inside a feature the nearest level-3 heading since then decides its section, and in a scenarios
     section the nearest level-4 heading since then is its scenario.

  3. **The outline read off a page.**  `outlineUpTo o blocks n` collects what stands at the first
     `n` places, each by what `sectionAt` and `scenario?` say of its place.

  4. **Steps.**  The lemmas say how each reading changes from place `n` to place `n + 1`: a heading
     of one level changes the readings of that level and of those inside it, and no other block
     changes any.
-/
import Scenarist.Outline.Extraction

namespace Scenarist.Extraction

/-! ## Looking back for a heading -/

/-- The text of a heading of the given level. -/
def headingText? (level : Nat) : Block → Option Text
  | .heading l text => if l = level then some text else none
  | _ => none

/-- The nearest heading of a level before place `i` and not before place `low`: where it stands, and
its text. -/
def nearest? (blocks : List Block) (level low i : Nat) : Option (Nat × Text) :=
  (List.range i).reverse.findSome? fun j =>
    if low ≤ j then (blocks[j]?.bind (headingText? level)).map fun text => (j, text) else none

variable (o : Options) (blocks : List Block)

/-! ## What a place belongs to -/

/-- Where the heading of the feature stands that place `i` is in. -/
def feature? (i : Nat) : Option Nat :=
  (nearest? blocks 2 0 i).bind fun (j, text) =>
    if normalName text ∈ o.featureHeadings then some j else none

/-- The level-3 heading, since the heading of the feature, that place `i` stands under. -/
def sectionHeading? (i : Nat) : Option (Nat × Text) :=
  (feature? o blocks i).bind fun j => nearest? blocks 3 j i

/-- The section of place `i`. -/
def sectionAt (i : Nat) : Section :=
  match sectionHeading? o blocks i with
  | some (_, text) => State.sectionOf o (normalName text)
  | none => .none

/-- Where the heading of the scenario stands that place `i` is in. -/
def scenario? (i : Nat) : Option Nat :=
  if sectionAt o blocks i = .scenarios then
    (sectionHeading? o blocks i).bind fun (k, _) => (nearest? blocks 4 k i).map Prod.fst
  else none

/-! ## What stands at a place -/

/-- The background step at place `i`. -/
def background? (i : Nat) : Option Text :=
  match blocks[i]? with
  | some (.paragraph raw) =>
      if sectionAt o blocks i = .background then some (Sentence.clean raw) else none
  | _ => none

/-- The comment of the feature at place `i`: a quote that has no scenario. -/
def comment? (i : Nat) : Option Text :=
  match blocks[i]? with
  | some (.quote content) =>
      if scenario? o blocks i = none then some (Text.indent 2 (RichText.flatten content)) else none
  | _ => none

/-- The name of the scenario that starts at place `i`. -/
def scenarioName? (i : Nat) : Option Text :=
  if sectionAt o blocks i = .scenarios then
    (blocks[i]?.bind (headingText? 4)).map Text.trim
  else none

/-- The step of a scenario at place `i`. -/
def step? (i : Nat) : Option Text :=
  match blocks[i]? with
  | some (.paragraph raw) =>
      if Sentence.isStep (Sentence.clean raw) && (scenario? o blocks i).isSome then
        some (Sentence.clean raw)
      else none
  | _ => none

/-- The header for bullets at place `i`: what the nearest step before it gives. -/
def headerAt (i : Nat) : Text :=
  match (List.range i).reverse.findSome? (step? o blocks) with
  | some step => Sentence.headerOf step o.defaultTableHeader
  | none => o.defaultTableHeader

/-- The element that the block at place `i` gives to its scenario. -/
def element? (i : Nat) : Option Element :=
  match blocks[i]? with
  | some (.quote content) => some (.comment (RichText.flatten content))
  | some (.paragraph raw) =>
      if Sentence.isStep (Sentence.clean raw) then some (.step (Sentence.clean raw)) else none
  | some (.table rows) =>
      if rows.any fun row => !row.isEmpty then some (.table (Table.ofRows rows)) else none
  | some (.bullet raw) =>
      if (Text.trim raw).isEmpty then none
      else some (.bullet (headerAt o blocks i) (Text.trim raw))
  | _ => none

/-! ## The outline read off a page -/

/-- The scenarios that start before place `n`: where each starts, and its name. -/
def scenarioHeadings (n : Nat) : List (Nat × Text) :=
  (List.range n).filterMap fun m => (scenarioName? o blocks m).map fun name => (m, name)

/-- The elements before place `n` of the scenario that starts at place `m`. -/
def elementsUpTo (n m : Nat) : List Element :=
  (List.range n).filterMap fun i =>
    if scenario? o blocks i = some m then element? o blocks i else none

/-- The outline that the first `n` places of a page give. -/
def outlineUpTo (n : Nat) : Outline where
  title := ((nearest? blocks 1 0 n).map fun (_, text) => Text.trim text).getD []
  background := (List.range n).filterMap (background? o blocks)
  scenarios := (scenarioHeadings o blocks n).map fun (m, name) =>
    { name, elements := elementsUpTo o blocks n m }
  comments := (List.range n).filterMap (comment? o blocks)

/-! ## Looking back one place further -/

variable {o : Options} {blocks : List Block} {level low n m k : Nat} {text : Text}

theorem headingText?_eq_some {b : Block} :
    headingText? level b = some text ↔ b = .heading level text := by
  cases b with
  | heading l t =>
    by_cases hl : l = level
    · subst hl; simp [headingText?]
    · simp [headingText?, hl]
  | _ => simp [headingText?]

/-- Where no heading of a level stands there is no text of one. -/
theorem bind_headingText?_eq_none (hb : ∀ text, blocks[n]? ≠ some (.heading level text)) :
    blocks[n]?.bind (headingText? level) = none := by
  cases h : blocks[n]? with
  | none => rfl
  | some b =>
    cases ht : headingText? level b with
    | none => simpa using ht
    | some text => exact absurd (h.trans (congrArg some (headingText?_eq_some.1 ht))) (hb text)

/-- Looking back from one place further: the last block counts first, if it is not before `low`. -/
theorem nearest?_succ (blocks : List Block) (level low n : Nat) :
    nearest? blocks level low (n + 1)
      = (if low ≤ n then (blocks[n]?.bind (headingText? level)).map fun text => (n, text)
          else none).or (nearest? blocks level low n) := by
  unfold nearest?
  rw [List.range_succ, List.reverse_append, List.reverse_singleton, List.singleton_append,
    List.findSome?_cons]
  split
  · rename_i h; rw [h]; rfl
  · rename_i h; rw [h]; rfl

theorem nearest?_succ_heading (hb : blocks[n]? = some (.heading level text)) (hl : low ≤ n) :
    nearest? blocks level low (n + 1) = some (n, text) := by
  rw [nearest?_succ, if_pos hl, hb]
  simp [headingText?]

theorem nearest?_succ_other (low : Nat) (hb : ∀ text, blocks[n]? ≠ some (.heading level text)) :
    nearest? blocks level low (n + 1) = nearest? blocks level low n := by
  rw [nearest?_succ, bind_headingText?_eq_none hb]
  simp

/-- The nearest heading lies between the two places. -/
theorem nearest?_bounds (h : nearest? blocks level low n = some (k, text)) : low ≤ k ∧ k < n := by
  induction n with
  | zero => simp [nearest?] at h
  | succ n ih =>
    rw [nearest?_succ] at h
    by_cases hl : low ≤ n
    · rw [if_pos hl] at h
      cases hb : blocks[n]?.bind (headingText? level) with
      | none =>
        rw [hb] at h
        have := ih h
        omega
      | some t =>
        rw [hb] at h
        have hk : n = k := by simpa using congrArg (Option.map Prod.fst) h
        omega
    · rw [if_neg hl] at h
      have := ih h
      omega

theorem nearest?_of_le (h : n ≤ low) : nearest? blocks level low n = none := by
  cases hn : nearest? blocks level low n with
  | none => rfl
  | some found =>
    obtain ⟨k, text⟩ := found
    have := nearest?_bounds hn
    omega

/-! ## What a block changes -/

/-- No heading of the levels 2 to 4 stands at place `n`. -/
def Quiet (blocks : List Block) (n : Nat) : Prop :=
  ∀ level text, 2 ≤ level → level ≤ 4 → blocks[n]? ≠ some (.heading level text)

/-- At a place stands a heading of level 2, 3 or 4, or none of these. -/
theorem quiet_or_heading (blocks : List Block) (n : Nat) :
    Quiet blocks n ∨ (∃ text, blocks[n]? = some (.heading 2 text))
      ∨ (∃ text, blocks[n]? = some (.heading 3 text))
      ∨ ∃ text, blocks[n]? = some (.heading 4 text) := by
  by_cases h2 : ∃ text, blocks[n]? = some (.heading 2 text)
  · exact Or.inr (Or.inl h2)
  by_cases h3 : ∃ text, blocks[n]? = some (.heading 3 text)
  · exact Or.inr (Or.inr (Or.inl h3))
  by_cases h4 : ∃ text, blocks[n]? = some (.heading 4 text)
  · exact Or.inr (Or.inr (Or.inr h4))
  refine Or.inl fun level text hlow hhigh hb => ?_
  obtain rfl | rfl | rfl : level = 2 ∨ level = 3 ∨ level = 4 := by omega
  · exact h2 ⟨text, hb⟩
  · exact h3 ⟨text, hb⟩
  · exact h4 ⟨text, hb⟩

theorem heading_ne {l : Nat} (hb : blocks[n]? = some (.heading l text)) (hl : l ≠ level) :
    ∀ t, blocks[n]? ≠ some (.heading level t) := by
  intro t ht
  rw [hb] at ht
  injection ht with ht
  injection ht with ht
  exact hl ht

/-! ### The feature -/

theorem feature?_lt (h : feature? o blocks n = some k) : k < n := by
  unfold feature? at h
  obtain ⟨⟨j, text⟩, hj, hk⟩ := Option.bind_eq_some_iff.1 h
  have hjn := (nearest?_bounds hj).2
  by_cases hf : normalName text ∈ o.featureHeadings
  · simp only [hf, if_true, Option.some.injEq] at hk
    omega
  · simp [hf] at hk

theorem feature?_succ (h2 : ∀ t, blocks[n]? ≠ some (.heading 2 t)) :
    feature? o blocks (n + 1) = feature? o blocks n := by
  rw [feature?, nearest?_succ_other 0 h2, feature?]

theorem feature?_succ_heading (hb : blocks[n]? = some (.heading 2 text)) :
    feature? o blocks (n + 1)
      = if normalName text ∈ o.featureHeadings then some n else none := by
  rw [feature?, nearest?_succ_heading hb (Nat.zero_le n)]
  rfl

/-! ### The section -/

theorem sectionHeading?_lt (h : sectionHeading? o blocks n = some (k, text)) : k < n := by
  obtain ⟨j, _, hk⟩ := Option.bind_eq_some_iff.1 h
  exact (nearest?_bounds hk).2

theorem sectionHeading?_succ (h2 : ∀ t, blocks[n]? ≠ some (.heading 2 t))
    (h3 : ∀ t, blocks[n]? ≠ some (.heading 3 t)) :
    sectionHeading? o blocks (n + 1) = sectionHeading? o blocks n := by
  rw [sectionHeading?, feature?_succ h2, sectionHeading?]
  cases feature? o blocks n with
  | none => rfl
  | some j => exact nearest?_succ_other j h3

/-- A level-2 heading closes the section, whether or not it opens a feature. -/
theorem sectionHeading?_succ_two (hb : blocks[n]? = some (.heading 2 text)) :
    sectionHeading? o blocks (n + 1) = none := by
  rw [sectionHeading?, feature?_succ_heading hb]
  split
  · show nearest? blocks 3 n (n + 1) = none
    rw [nearest?_succ_other n (heading_ne hb (by decide)), nearest?_of_le (Nat.le_refl n)]
  · rfl

theorem sectionHeading?_succ_three (hb : blocks[n]? = some (.heading 3 text)) :
    sectionHeading? o blocks (n + 1) = (feature? o blocks n).map fun _ => (n, text) := by
  rw [sectionHeading?, feature?_succ (heading_ne hb (by decide))]
  cases hf : feature? o blocks n with
  | none => rfl
  | some j => exact nearest?_succ_heading hb (Nat.le_of_lt (feature?_lt hf))

theorem sectionAt_succ (h2 : ∀ t, blocks[n]? ≠ some (.heading 2 t))
    (h3 : ∀ t, blocks[n]? ≠ some (.heading 3 t)) :
    sectionAt o blocks (n + 1) = sectionAt o blocks n := by
  rw [sectionAt, sectionHeading?_succ h2 h3, sectionAt]

theorem sectionAt_succ_two (hb : blocks[n]? = some (.heading 2 text)) :
    sectionAt o blocks (n + 1) = .none := by
  rw [sectionAt, sectionHeading?_succ_two hb]

theorem sectionAt_succ_three (hb : blocks[n]? = some (.heading 3 text)) :
    sectionAt o blocks (n + 1)
      = if (feature? o blocks n).isSome then State.sectionOf o (normalName text) else .none := by
  rw [sectionAt, sectionHeading?_succ_three hb]
  cases feature? o blocks n with
  | none => rfl
  | some j => rfl

/-- A section that counts lies in a feature. -/
theorem feature?_isSome_of_sectionAt (h : sectionAt o blocks n ≠ .none) :
    (feature? o blocks n).isSome = true := by
  cases hf : feature? o blocks n with
  | some j => rfl
  | none =>
    rw [sectionAt, sectionHeading?, hf] at h
    exact absurd rfl h

/-! ### The scenario -/

theorem scenario?_of_sectionAt_ne (h : sectionAt o blocks n ≠ .scenarios) :
    scenario? o blocks n = none := if_neg h

theorem scenario?_succ (hq : Quiet blocks n) :
    scenario? o blocks (n + 1) = scenario? o blocks n := by
  have h2 := fun t => hq 2 t (by omega) (by omega)
  have h3 := fun t => hq 3 t (by omega) (by omega)
  have h4 := fun t => hq 4 t (by omega) (by omega)
  rw [scenario?, sectionAt_succ h2 h3, sectionHeading?_succ h2 h3, scenario?]
  cases sectionHeading? o blocks n with
  | none => rfl
  | some found =>
    obtain ⟨k, name⟩ := found
    show (if _ then (nearest? blocks 4 k (n + 1)).map Prod.fst else none) = _
    rw [nearest?_succ_other k h4]
    rfl

theorem scenario?_succ_two (hb : blocks[n]? = some (.heading 2 text)) :
    scenario? o blocks (n + 1) = none := by
  apply scenario?_of_sectionAt_ne
  rw [sectionAt_succ_two hb]
  nofun

/-- A level-3 heading closes the scenario, also where it opens a scenarios section again. -/
theorem scenario?_succ_three (hb : blocks[n]? = some (.heading 3 text)) :
    scenario? o blocks (n + 1) = none := by
  rw [scenario?, sectionHeading?_succ_three hb]
  cases feature? o blocks n with
  | none => exact ite_self none
  | some j =>
    show (if _ then (nearest? blocks 4 n (n + 1)).map Prod.fst else none) = none
    rw [nearest?_succ_other n (heading_ne hb (by decide)), nearest?_of_le (Nat.le_refl n)]
    exact ite_self none

theorem scenario?_succ_four (hb : blocks[n]? = some (.heading 4 text)) :
    scenario? o blocks (n + 1)
      = if sectionAt o blocks n = .scenarios then some n else none := by
  have h2 : ∀ t, blocks[n]? ≠ some (.heading 2 t) := heading_ne hb (by decide)
  have h3 : ∀ t, blocks[n]? ≠ some (.heading 3 t) := heading_ne hb (by decide)
  rw [scenario?, sectionAt_succ h2 h3, sectionHeading?_succ h2 h3]
  by_cases hs : sectionAt o blocks n = .scenarios
  · rw [if_pos hs, if_pos hs]
    cases hk : sectionHeading? o blocks n with
    | none =>
      rw [sectionAt, hk] at hs
      cases hs
    | some found =>
      obtain ⟨k, name⟩ := found
      show (nearest? blocks 4 k (n + 1)).map Prod.fst = some n
      rw [nearest?_succ_heading hb (Nat.le_of_lt (sectionHeading?_lt hk))]
      rfl
  · rw [if_neg hs, if_neg hs]

end Scenarist.Extraction
