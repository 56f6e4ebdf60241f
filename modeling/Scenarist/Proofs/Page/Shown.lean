/-
  Shown text — what well-nested events show when some of their groups are left out.

  1. `shownOutside` is the text that lies in none of some stretches of the source.  It looks at
     places only and knows nothing of nesting.

  2. `Shows` goes by the tree: a group is looked into, or left out with all that is inside it.

  3. If trees stand in order and their letters take up room, places tell the same as nesting, and the
     two agree (`Shows.letters_shownOutside`).
-/
import Scenarist.Page.Reading
import Scenarist.Proofs.Markdown.Ranges
import Scenarist.Proofs.Text.Letters

namespace Scenarist.Reading

open Markdown (Span Tag Event Located EventTree around InOrder Roomy Apart shownSpans groupSpans
  treeEvents)
open Text (letters)

/-- The text that events show outside of some stretches. -/
def shownOutside (left : List Span) (es : List Located) : Text :=
  es.flatMap fun e => if ∃ stretch ∈ left, e.2.Inside stretch then [] else e.1.chars

theorem shownOutside_append (left : List Span) (es fs : List Located) :
    shownOutside left (es ++ fs) = shownOutside left es ++ shownOutside left fs :=
  List.flatMap_append

theorem shownOutside_around (left : List Span) (tag : Tag) (span : Span) (inner : List Located) :
    shownOutside left (around tag span inner) = shownOutside left inner := by
  simp [shownOutside, around, Event.chars]

/-- An event that shows no letters has none outside of anything. -/
theorem letters_ite_of_not_shown {es : List Located} {e : Located} (he : e ∈ es)
    (hshown : e.2 ∉ shownSpans es) (p : Prop) [Decidable p] :
    letters (if p then [] else e.1.chars) = 0 := by
  have hblank : e.1.chars.all Text.isBlank = true := by
    by_contra hchars
    exact hshown (Markdown.mem_shownSpans.2 ⟨e.1, he, hchars⟩)
  have hletters : letters e.1.chars = 0 := Text.letters_of_blank (List.all_eq_true.1 hblank)
  split
  · rfl
  · exact hletters

/-- Only those stretches count that hold some of the letters. -/
theorem letters_shownOutside_congr {left left' : List Span} {es : List Located}
    (h : ∀ s ∈ shownSpans es,
      (∃ stretch ∈ left, s.Inside stretch) ↔ ∃ stretch ∈ left', s.Inside stretch) :
    letters (shownOutside left es) = letters (shownOutside left' es) := by
  refine Text.letters_flatMap_congr fun e he => ?_
  by_cases hshown : e.2 ∈ shownSpans es
  · rw [if_congr (h e.2 hshown) rfl rfl]
  · rw [letters_ite_of_not_shown he hshown, letters_ite_of_not_shown he hshown]

/-- Letters that lie in a stretch are not shown outside of it. -/
theorem letters_shownOutside_covered {left : List Span} {stretch : Span} {es : List Located}
    (hmem : stretch ∈ left) (h : ∀ s ∈ shownSpans es, s.Inside stretch) :
    letters (shownOutside left es) = 0 := by
  have hnothing : letters (es.flatMap fun _ => []) = 0 := by
    rw [List.flatMap_eq_nil_iff.2 fun _ _ => rfl]
    rfl
  rw [← hnothing]
  refine Text.letters_flatMap_congr fun e he => ?_
  by_cases hshown : e.2 ∈ shownSpans es
  · rw [if_pos ⟨stretch, hmem, h e.2 hshown⟩]
  · exact letters_ite_of_not_shown he hshown _

/-- Stretches that hold none of the letters can be taken away. -/
theorem letters_shownOutside_apart {left away : List Span} {es : List Located}
    (h : ∀ s ∈ shownSpans es, ∀ stretch ∈ away, ¬ s.Inside stretch) :
    letters (shownOutside (left ++ away) es) = letters (shownOutside left es) ∧
      letters (shownOutside (away ++ left) es) = letters (shownOutside left es) := by
  have hnone : ∀ s ∈ shownSpans es, ¬ ∃ stretch ∈ away, s.Inside stretch := by
    rintro s hs ⟨stretch, hstretch, hinside⟩
    exact h s hs stretch hstretch hinside
  constructor
  · refine letters_shownOutside_congr fun s hs => ?_
    have hs := hnone s hs
    simp only [List.mem_append, or_and_right, exists_or, hs, or_false]
  · refine letters_shownOutside_congr fun s hs => ?_
    have hs := hnone s hs
    simp only [List.mem_append, or_and_right, exists_or, hs, false_or]

/-- Which letters trees show if the given groups are left out. -/
inductive Shows (file : Nat) : List EventTree → List Omission → Multiset Char → Prop
  | nil : Shows file [] [] 0
  | mark {ts : List EventTree} {left : List Omission} {shown : Multiset Char} (event : Event)
      (span : Span) (h : event.isMark = true) (hts : Shows file ts left shown) :
      Shows file (.mark event span h :: ts) left (letters event.chars + shown)
  | enter {inner ts : List EventTree} {left left' : List Omission} {shown shown' : Multiset Char}
      (tag : Tag) (span : Span) (hinner : Shows file inner left shown)
      (hts : Shows file ts left' shown') :
      Shows file (.group tag span inner :: ts) (left ++ left') (shown + shown')
  | leave {ts : List EventTree} {left : List Omission} {shown : Multiset Char} (tag : Tag)
      (span : Span) (inner : List EventTree) (hts : Shows file ts left shown) :
      Shows file (.group tag span inner :: ts) (omission file tag span :: left) shown

namespace Shows

variable {file : Nat} {ts us inner : List EventTree} {left left' : List Omission}
  {shown shown' : Multiset Char} {tag : Tag} {span : Span}

theorem append (hts : Shows file ts left shown) (hus : Shows file us left' shown') :
    Shows file (ts ++ us) (left ++ left') (shown + shown') := by
  induction hts with
  | nil => rwa [List.nil_append, List.nil_append, zero_add]
  | mark event span h _ ih =>
    rw [add_assoc]
    exact .mark event span h ih
  | enter tag span hinner _ _ ih =>
    rw [List.append_assoc, add_assoc]
    exact .enter tag span hinner ih
  | leave tag span inner _ ih => exact .leave tag span inner ih

theorem cons {t : EventTree} (ht : Shows file [t] left shown) (hts : Shows file ts left' shown') :
    Shows file (t :: ts) (left ++ left') (shown + shown') := ht.append hts

/-- An event without characters shows nothing. -/
theorem silent {event : Event} (hchars : event.chars = []) (h : event.isMark = true)
    (hts : Shows file ts left shown) : Shows file (.mark event span h :: ts) left shown := by
  have hmark : Shows file (.mark event span h :: ts) left (letters event.chars + shown) :=
    .mark event span h hts
  rwa [hchars, Text.letters_nil, zero_add] at hmark

/-- A group that is looked into shows what is inside it. -/
theorem group (hinner : Shows file inner left shown) :
    Shows file [.group tag span inner] left shown := by
  have h : Shows file [.group tag span inner] (left ++ []) (shown + 0) :=
    .enter tag span hinner .nil
  rwa [List.append_nil, add_zero] at h

/-- A group that is left out shows nothing. -/
theorem leftOut : Shows file [.group tag span inner] [omission file tag span] 0 :=
  .leave tag span inner .nil

/-- Only groups are left out. -/
theorem span_mem (h : Shows file ts left shown) :
    ∀ o ∈ left, o.span ∈ groupSpans (treeEvents ts) := by
  induction h with
  | nil => exact fun _ ho => absurd ho List.not_mem_nil
  | mark event span h _ ih =>
    intro o ho
    rw [Markdown.treeEvents_cons, Markdown.groupSpans_append]
    exact List.mem_append_right _ (ih o ho)
  | enter tag span _ _ ihinner ihts =>
    intro o ho
    rw [Markdown.treeEvents_cons, Markdown.groupSpans_append, Markdown.events_group,
      Markdown.groupSpans_around]
    rcases List.mem_append.1 ho with ho | ho
    · exact List.mem_append_left _ (List.mem_cons_of_mem _ (ihinner o ho))
    · exact List.mem_append_right _ (ihts o ho)
  | leave tag span inner _ ih =>
    intro o ho
    rw [Markdown.treeEvents_cons, Markdown.groupSpans_append, Markdown.events_group,
      Markdown.groupSpans_around]
    rcases List.mem_cons.1 ho with rfl | ho
    · exact List.mem_append_left _ List.mem_cons_self
    · exact List.mem_append_right _ (ih o ho)

/-- What is left out holds nothing of what lies in none of the groups. -/
theorem apart (h : Shows file ts left shown) {es : List Located}
    (hapart : Apart es (treeEvents ts)) :
    ∀ s ∈ shownSpans es, ∀ stretch ∈ left.map Omission.span, ¬ s.Inside stretch := by
  intro s hs stretch hstretch
  obtain ⟨o, ho, rfl⟩ := List.mem_map.1 hstretch
  exact hapart s hs o.span (h.span_mem o ho)

/-- **Places tell the same as nesting.**  Trees in order show what lies outside of what is left
out. -/
theorem letters_shownOutside {outer : Span} (h : Shows file ts left shown)
    (horder : InOrder outer ts) (hroom : Roomy (treeEvents ts)) :
    letters (shownOutside (left.map Omission.span) (treeEvents ts)) = shown := by
  induction h generalizing outer with
  | nil => rfl
  | @mark ts left shown event span h hts ih =>
    obtain ⟨hbehind, -⟩ := Markdown.apart_of_inOrder horder hroom
    rw [Markdown.treeEvents_cons, Markdown.roomy_append] at hroom
    rw [Markdown.events_mark] at hbehind
    have hmark : letters (shownOutside ([] ++ left.map Omission.span) [(event, span)])
        = letters event.chars := by
      rw [(letters_shownOutside_apart (hts.apart hbehind)).1]
      simp [shownOutside]
    rw [List.nil_append] at hmark
    rw [Markdown.treeEvents_cons, Markdown.events_mark, shownOutside_append, Text.letters_append,
      hmark, ih horder.2.2.2 hroom.2]
  | @enter inner ts left left' shown shown' tag span hinner hts ihinner ihts =>
    obtain ⟨hbefore, hafter⟩ := Markdown.apart_of_inOrder horder hroom
    rw [Markdown.events_group, Markdown.apart_around_left] at hbefore
    rw [Markdown.events_group, Markdown.apart_around_right] at hafter
    rw [Markdown.treeEvents_cons, Markdown.events_group, Markdown.roomy_append,
      Markdown.roomy_around] at hroom
    -- what is left out inside the group holds nothing of what comes after it, and the other way
    rw [Markdown.treeEvents_cons, Markdown.events_group, List.map_append, shownOutside_append,
      shownOutside_around, Text.letters_append,
      (letters_shownOutside_apart (hts.apart hbefore)).1,
      (letters_shownOutside_apart (hinner.apart hafter.2)).2, ihinner horder.2.1 hroom.1,
      ihts horder.2.2.2 hroom.2]
  | @leave ts left shown tag span inner hts ih =>
    obtain ⟨-, hafter⟩ := Markdown.apart_of_inOrder horder hroom
    rw [Markdown.events_group, Markdown.apart_around_right] at hafter
    rw [Markdown.treeEvents_cons, Markdown.roomy_append] at hroom
    have hcovered : ∀ s ∈ shownSpans (treeEvents inner), s.Inside span := by
      intro s hs
      obtain ⟨u, hu, hinside⟩ := Markdown.inside_of_mem_shownSpans horder.2.1 hs
      exact hinside.trans (InOrder.inside horder.2.1 u hu)
    have hgroup : letters (shownOutside (span :: left.map Omission.span) (treeEvents inner)) = 0 :=
      letters_shownOutside_covered List.mem_cons_self hcovered
    have hrest : letters (shownOutside ([span] ++ left.map Omission.span) (treeEvents ts))
        = letters (shownOutside (left.map Omission.span) (treeEvents ts)) := by
      refine (letters_shownOutside_apart fun s hs stretch hstretch => ?_).2
      obtain rfl := List.mem_singleton.1 hstretch
      exact hafter.1 s hs
    rw [Markdown.treeEvents_cons, Markdown.events_group, List.map_cons, shownOutside_append,
      shownOutside_around, Text.letters_append]
    show letters (shownOutside (span :: _) _) + letters (shownOutside ([span] ++ _) _) = shown
    rw [hgroup, hrest, zero_add, ih horder.2.2.2 hroom.2]

end Shows

end Scenarist.Reading
