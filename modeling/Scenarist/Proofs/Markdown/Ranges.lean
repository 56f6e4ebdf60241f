/-
  Ranges — where the groups of well-nested events stand.

  1. `InOrder` says what the places of event trees tell: each tree lies inside the one around it,
     and trees beside each other stand one after the other and do not overlap.

  2. A start among well-nested events is that of a whole group (`opensGroup_trees`).  The group lies
     where all of them lie, and what starts behind it starts behind its range.

  3. Letters that take up room stand inside the groups that they are in, and inside no other
     (`apart_of_inOrder`).  So places tell what is in a group and what is not.
-/
import Scenarist.Proofs.Markdown.EventTree

namespace Scenarist.Markdown

variable {outer span s : Span} {tag : Tag} {ts : List EventTree} {before after : List Located}

/-! ## Order -/

mutual

/-- Whether what is in a tree stands in order inside it. -/
def EventTree.Ranged : EventTree → Prop
  | .mark _ _ _ => True
  | .group _ span inner => InOrder span inner

/-- Whether trees stand one after the other inside a stretch, and all that is in them likewise. -/
def InOrder (outer : Span) : List EventTree → Prop
  | [] => True
  | t :: ts =>
      t.span.Inside outer ∧ t.Ranged ∧ (∀ u ∈ ts, t.span.stop ≤ u.span.first) ∧ InOrder outer ts

end

mutual

/-- The order in a tree can be checked. -/
instance EventTree.decidableRanged : ∀ t : EventTree, Decidable t.Ranged
  | .mark _ _ _ => inferInstanceAs (Decidable True)
  | .group _ span inner => decidableInOrder span inner

/-- The order of trees can be checked. -/
instance decidableInOrder (outer : Span) : ∀ ts : List EventTree, Decidable (InOrder outer ts)
  | [] => inferInstanceAs (Decidable True)
  | t :: ts =>
      have := t.decidableRanged
      have := decidableInOrder outer ts
      inferInstanceAs (Decidable (t.span.Inside outer ∧ t.Ranged ∧
        (∀ u ∈ ts, t.span.stop ≤ u.span.first) ∧ InOrder outer ts))

end

theorem Span.Inside.trans {s t u : Span} (hst : s.Inside t) (htu : t.Inside u) : s.Inside u :=
  ⟨Nat.le_trans htu.1 hst.1, Nat.le_trans hst.2 htu.2⟩

theorem Span.Inside.refl (s : Span) : s.Inside s := ⟨Nat.le_refl _, Nat.le_refl _⟩

theorem InOrder.inside : ∀ {ts : List EventTree}, InOrder outer ts → ∀ t ∈ ts, t.span.Inside outer
  | [], _, _, ht => nomatch ht
  | _ :: _, ⟨hfirst, _, _, hrest⟩, t, ht => by
    rcases List.mem_cons.1 ht with rfl | ht
    · exact hfirst
    · exact hrest.inside t ht

mutual

/-- The events of a tree stand inside it. -/
theorem inside_of_mem_events :
    ∀ t : EventTree, t.Ranged → ∀ e ∈ t.events, e.2.Inside t.span
  | .mark event span h, _, e, he => by
    rw [events_mark] at he
    obtain rfl := List.mem_singleton.1 he
    exact Span.Inside.refl span
  | .group tag span inner, hranged, e, he => by
    rw [events_group, around, List.cons_append, List.mem_cons, List.mem_append,
      List.mem_singleton] at he
    rcases he with rfl | he | rfl
    · exact Span.Inside.refl span
    · obtain ⟨u, hu, heu⟩ := inside_of_mem_treeEvents span inner hranged e he
      exact heu.trans (InOrder.inside hranged u hu)
    · exact Span.Inside.refl span

/-- The events of trees stand each inside one of them. -/
theorem inside_of_mem_treeEvents : ∀ (outer : Span) (ts : List EventTree), InOrder outer ts →
    ∀ e ∈ treeEvents ts, ∃ t ∈ ts, e.2.Inside t.span
  | _, [], _, e, he => by
    rw [treeEvents_nil] at he
    cases he
  | outer, t :: ts, ⟨_, hranged, _, hrest⟩, e, he => by
    rw [treeEvents_cons] at he
    rcases List.mem_append.1 he with he | he
    · exact ⟨t, List.mem_cons_self .., inside_of_mem_events t hranged e he⟩
    · obtain ⟨u, hu, heu⟩ := inside_of_mem_treeEvents outer ts hrest e he
      exact ⟨u, List.mem_cons_of_mem t hu, heu⟩

end

/-- Whatever starts in trees lies inside one of them. -/
theorem inside_of_mem_groupSpans (h : InOrder outer ts) (hs : s ∈ groupSpans (treeEvents ts)) :
    ∃ t ∈ ts, s.Inside t.span := by
  obtain ⟨tag, he⟩ := mem_groupSpans.1 hs
  exact inside_of_mem_treeEvents outer ts h _ he

/-- The letters of trees are shown inside one of them. -/
theorem inside_of_mem_shownSpans (h : InOrder outer ts) (hs : s ∈ shownSpans (treeEvents ts)) :
    ∃ t ∈ ts, s.Inside t.span := by
  obtain ⟨e, he, -⟩ := mem_shownSpans.1 hs
  exact inside_of_mem_treeEvents outer ts h _ he

/-! ## Groups -/

/-- Whether all that starts in some events does so at a place or behind it. -/
def StartsFrom (place : Nat) (es : List Located) : Prop := ∀ s ∈ groupSpans es, place ≤ s.first

theorem StartsFrom.append {place : Nat} {es fs : List Located} (hes : StartsFrom place es)
    (hfs : StartsFrom place fs) : StartsFrom place (es ++ fs) := by
  intro s hs
  rw [groupSpans_append] at hs
  rcases List.mem_append.1 hs with hs | hs
  · exact hes s hs
  · exact hfs s hs

/-- Whether a start and what follows it are a whole group with further events, the group inside a
stretch and those events behind the group. -/
def OpensGroup (outer : Span) (tag : Tag) (span : Span) (after : List Located) : Prop :=
  ∃ inner rest, (.start tag, span) :: after = around tag span (treeEvents inner) ++ rest ∧
    span.Inside outer ∧ StartsFrom span.stop rest

theorem OpensGroup.append {more : List Located} (h : OpensGroup outer tag span after)
    (hmore : StartsFrom span.stop more) : OpensGroup outer tag span (after ++ more) := by
  obtain ⟨inner, rest, hgroup, hinside, hrest⟩ := h
  refine ⟨inner, rest ++ more, ?_, hinside, hrest.append hmore⟩
  rw [← List.append_assoc, ← hgroup]
  rfl

theorem OpensGroup.mono {wider : Span} (h : OpensGroup outer tag span after)
    (hwider : outer.Inside wider) : OpensGroup wider tag span after := by
  obtain ⟨inner, rest, hgroup, hinside, hrest⟩ := h
  exact ⟨inner, rest, hgroup, hinside.trans hwider, hrest⟩

theorem OpensGroup.inside (h : OpensGroup outer tag span after) : span.Inside outer := by
  obtain ⟨-, -, -, hinside, -⟩ := h
  exact hinside

mutual

theorem opensGroup_tree : ∀ (t : EventTree) (before after : List Located), t.Ranged →
    t.events = before ++ (.start tag, span) :: after → OpensGroup t.span tag span after
  | .mark event place h, before, after, _, hevents => by
    rw [events_mark] at hevents
    have hmem : (.start tag, span) ∈ [(event, place)] := by
      rw [hevents]
      exact List.mem_append_right _ (List.mem_cons_self ..)
    cases List.mem_singleton.1 hmem
    cases h
  | .group kind place inner, before, after, hranged, hevents => by
    rw [events_group, around, List.cons_append] at hevents
    cases before with
    | nil =>
      -- the start is that of the tree
      obtain ⟨hstart, rfl⟩ := List.cons.inj hevents
      cases hstart
      refine ⟨inner, [], ?_, Span.Inside.refl _, fun s hs => nomatch hs⟩
      rw [List.append_nil]
      rfl
    | cons first before =>
      obtain ⟨-, hevents⟩ := List.cons.inj hevents
      rcases List.append_eq_append_iff.1 hevents with ⟨more, -, hlast⟩ | ⟨more, hinner, hafter⟩
      · -- behind what is in the tree there is only its finish
        cases more with
        | nil => cases (List.cons.inj hlast).1
        | cons _ more => cases more <;> cases (List.cons.inj hlast).2
      · cases more with
        | nil => cases (List.cons.inj hafter).1
        | cons start more =>
          obtain ⟨rfl, rfl⟩ := List.cons.inj hafter
          have hgroup := opensGroup_trees place inner before more hranged hinner
          exact hgroup.append fun s hs => nomatch hs

/-- **A start is that of a whole group.** -/
theorem opensGroup_trees : ∀ (outer : Span) (ts : List EventTree) (before after : List Located),
    InOrder outer ts → treeEvents ts = before ++ (.start tag, span) :: after →
      OpensGroup outer tag span after
  | _, [], before, after, _, hevents => by
    rw [treeEvents_nil] at hevents
    cases before <;> cases hevents
  | outer, t :: ts, before, after, ⟨hinside, hranged, hbehind, hrest⟩, hevents => by
    rw [treeEvents_cons] at hevents
    rcases List.append_eq_append_iff.1 hevents with ⟨more, -, hlast⟩ | ⟨more, hfirst, hafter⟩
    · exact opensGroup_trees outer ts more after hrest hlast
    · cases more with
      | nil => exact opensGroup_trees outer ts [] after hrest hafter.symm
      | cons start more =>
        obtain ⟨rfl, rfl⟩ := List.cons.inj hafter
        have hgroup := opensGroup_tree t before more hranged hfirst
        -- what starts in later trees does so behind this one
        have hlater : StartsFrom span.stop (treeEvents ts) := by
          intro s hs
          obtain ⟨u, hu, hsu⟩ := inside_of_mem_groupSpans hrest hs
          have hspan := hgroup.inside.2
          have hnext := hbehind u hu
          have hfirst := hsu.1
          omega
        exact (hgroup.append hlater).mono hinside

end

/-! ## Letters -/

/-- Whether all that shows letters takes up room. -/
def Roomy (es : List Located) : Prop := ∀ s ∈ shownSpans es, s.first < s.stop

instance (es : List Located) : Decidable (Roomy es) :=
  inferInstanceAs (Decidable (∀ s ∈ shownSpans es, s.first < s.stop))

theorem roomy_append {es fs : List Located} : Roomy (es ++ fs) ↔ Roomy es ∧ Roomy fs := by
  simp only [Roomy, shownSpans_append, List.mem_append, or_imp, forall_and]

theorem roomy_around {inner : List Located} : Roomy (around tag span inner) ↔ Roomy inner := by
  rw [Roomy, shownSpans_around, Roomy]

/-- Whether no letters of some events lie inside a group of others. -/
def Apart (es fs : List Located) : Prop :=
  ∀ s ∈ shownSpans es, ∀ group ∈ groupSpans fs, ¬ s.Inside group

theorem apart_around_left {inner fs : List Located} :
    Apart (around tag span inner) fs ↔ Apart inner fs := by
  rw [Apart, shownSpans_around, Apart]

theorem apart_around_right {es inner : List Located} :
    Apart es (around tag span inner)
      ↔ (∀ s ∈ shownSpans es, ¬ s.Inside span) ∧ Apart es inner := by
  simp only [Apart, groupSpans_around, List.forall_mem_cons, forall_and]

/-- **Places tell trees apart.**  The letters of a tree lie in no group of the trees behind it, and
theirs in no group of it. -/
theorem apart_of_inOrder {t : EventTree} (h : InOrder outer (t :: ts))
    (hroom : Roomy (treeEvents (t :: ts))) :
    Apart t.events (treeEvents ts) ∧ Apart (treeEvents ts) t.events := by
  obtain ⟨_, hranged, hbehind, hrest⟩ := h
  rw [treeEvents_cons, roomy_append] at hroom
  have hshown : ∀ s ∈ shownSpans t.events, s.Inside t.span := by
    intro s hs
    obtain ⟨e, he, -⟩ := mem_shownSpans.1 hs
    exact inside_of_mem_events t hranged _ he
  have hgroups : ∀ s ∈ groupSpans t.events, s.Inside t.span := by
    intro s hs
    obtain ⟨kind, he⟩ := mem_groupSpans.1 hs
    exact inside_of_mem_events t hranged _ he
  constructor
  · rintro s hs group hgroup ⟨hfirst, -⟩
    obtain ⟨u, hu, hinside⟩ := inside_of_mem_groupSpans hrest hgroup
    have hroom := hroom.1 s hs
    have hstop := (hshown s hs).2
    have hnext := hbehind u hu
    have hstart := hinside.1
    omega
  · rintro s hs group hgroup ⟨-, hstop⟩
    obtain ⟨u, hu, hinside⟩ := inside_of_mem_shownSpans hrest hs
    have hroom := hroom.2 s hs
    have hend := (hgroups group hgroup).2
    have hnext := hbehind u hu
    have hstart := hinside.1
    omega

end Scenarist.Markdown
