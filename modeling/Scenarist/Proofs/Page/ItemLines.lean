/-
  Item lines — which items of a quote share a line of its flat form.

  1. **Marks** — `markedParts` spells the parts of a quote as the reader does (`bare_markedParts`), and
     marks each character with the place of the innermost item around it.

  2. **What a line shows last** after a part is what it would show last if the part were one text of the
     item around it (`foldl_markedPart`): a part that is not such a text ends its line, or is empty.

  3. **Items on a line are nested** — each is inside the ones before it, so siblings never share a line
     (`nested_markedParts`).

  4. **Apart (`PartsApart`)** — an item that is nested in another may go on with a line of that one.  The
     condition says of each nested item that it does not.  It looks at the two texts where they meet,
     and at no others, and it is just what keeps all items apart (`apart_markedParts`).

  5. Flattening changes nothing about it, so the same holds of the lines of a comment
     (`items_on_own_lines_iff`).
-/
import Mathlib.Data.Option.Basic
import Scenarist.Outline.Extraction
import Scenarist.Proofs.Page.MarkedText
import Scenarist.Proofs.Page.PartReading

namespace Scenarist.Reading

open Markdown (Inline Part Item Span)
open Marked (mark bare shown shownAfter firstLine Orderly)

/-- The way to an item: the number of a part, then of an item in it, and so on. -/
abbrev Place := List Nat

/-! ## Marks -/

mutual

/-- The text of a part of a quote; `owner` is the item that it stands in, if it stands in one. -/
def markedPart (owner : Option Place) (place : Place) :
    Markdown.Part (List Inline) → List (Marked Place)
  | .quote _ parts => markedParts owner place 0 parts ++ mark owner ['\n']
  | .list _ _ items => markedItems place 0 items
  | p => mark owner (RichNode.spellAll (quotedPart p))

/-- The text of an item, which stands at the given place. -/
def markedItem (place : Place) : Item (List Inline) → List (Marked Place)
  | .mk _ parts => markedParts (some place) place 0 parts ++ mark (some place) ['\n']

/-- The text of parts, the first of which has the number `n`. -/
def markedParts (owner : Option Place) (place : Place) (n : Nat) :
    List (Markdown.Part (List Inline)) → List (Marked Place)
  | [] => []
  | p :: ps => markedPart owner (place ++ [n]) p ++ markedParts owner place (n + 1) ps

/-- The text of items, the first of which has the number `n`. -/
def markedItems (place : Place) (n : Nat) : List (Item (List Inline)) → List (Marked Place)
  | [] => []
  | i :: is => markedItem (place ++ [n]) i ++ markedItems place (n + 1) is

end

/-- The lines of the flat form of a quote, each character marked with its item. -/
def quoteLines (parts : List (Markdown.Part (List Inline))) : List (List (Marked Place)) :=
  Marked.lines (Marked.flatten (markedParts none [] 0 parts))

theorem spellAll_quote (span : Span) (parts : List (Markdown.Part (List Inline))) :
    RichNode.spellAll (quotedPart (.quote span parts))
      = RichNode.spellAll (quotedParts parts) ++ ['\n'] := by
  rw [quotedPart, RichNode.spellAll, RichNode.spell, RichNode.spellAll, List.append_nil]

theorem spell_item (span : Span) (parts : List (Markdown.Part (List Inline))) :
    (quotedItem (.mk span parts)).spell = RichNode.spellAll (quotedParts parts) ++ ['\n'] := by
  rw [quotedItem, RichNode.spell]

mutual

theorem bare_markedPart (owner : Option Place) (place : Place) :
    ∀ p, bare (markedPart owner place p) = RichNode.spellAll (quotedPart p)
  | .quote _ parts => by
    rw [markedPart, spellAll_quote, Marked.bare_append, bare_markedParts, Marked.bare_mark]
  | .list _ _ items => by
    rw [markedPart, quotedPart, bare_markedItems]
  | .paragraph _ _ | .plain _ | .heading _ _ _ | .rule _ | .code _ _ | .html _ _ | .table _ _ _ =>
    Marked.bare_mark owner _

theorem bare_markedItem (place : Place) : ∀ i, bare (markedItem place i) = (quotedItem i).spell
  | .mk _ parts => by
    rw [markedItem, spell_item, Marked.bare_append, bare_markedParts, Marked.bare_mark]

/-- **Marks change no text.** -/
theorem bare_markedParts (owner : Option Place) (place : Place) (n : Nat) :
    ∀ ps, bare (markedParts owner place n ps) = RichNode.spellAll (quotedParts ps)
  | [] => rfl
  | p :: ps => by
    rw [markedParts, quotedParts, RichNode.spellAll_append, Marked.bare_append, bare_markedPart,
      bare_markedParts]

theorem bare_markedItems (place : Place) (n : Nat) :
    ∀ is, bare (markedItems place n is) = RichNode.spellAll (quotedItems is)
  | [] => rfl
  | i :: is => by
    rw [markedItems, quotedItems, RichNode.spellAll, Marked.bare_append, bare_markedItem,
      bare_markedItems]

end

/-- The lines with the marks are those of the comment. -/
theorem map_bare_quoteLines (parts : List (Markdown.Part (List Inline))) :
    (quoteLines parts).map bare = Text.lines (RichText.flatten (quotedParts parts)) := by
  rw [quoteLines, Marked.map_bare_lines, Marked.bare_flatten, bare_markedParts]
  rfl

/-! ## Sources -/

mutual

theorem source_markedPart (owner : Option Place) (place : Place) :
    ∀ p, ∀ x ∈ markedPart owner place p, x.2 = owner ∨ ∃ a ∈ x.2, place <+: a
  | .quote _ parts => by
    intro x hx
    rw [markedPart] at hx
    rcases List.mem_append.1 hx with hx | hx
    · exact source_markedParts owner place 0 parts x hx
    · exact .inl (Marked.source_mark hx)
  | .list _ _ items => by
    intro x hx
    rw [markedPart] at hx
    exact .inr (source_markedItems place 0 items x hx)
  | .paragraph _ _ | .plain _ | .heading _ _ _ | .rule _ | .code _ _ | .html _ _ | .table _ _ _ =>
    fun _ hx => .inl (Marked.source_mark hx)

/-- The characters of an item belong to it, or to items inside it. -/
theorem source_markedItem (place : Place) :
    ∀ i, ∀ x ∈ markedItem place i, ∃ a ∈ x.2, place <+: a
  | .mk _ parts => by
    intro x hx
    have hown : x.2 = some place → ∃ a ∈ x.2, place <+: a := by
      intro h
      exact ⟨place, h, List.prefix_rfl⟩
    rw [markedItem] at hx
    rcases List.mem_append.1 hx with hx | hx
    · rcases source_markedParts (some place) place 0 parts x hx with h | h
      · exact hown h
      · exact h
    · exact hown (Marked.source_mark hx)

theorem source_markedParts (owner : Option Place) (place : Place) (n : Nat) :
    ∀ ps, ∀ x ∈ markedParts owner place n ps, x.2 = owner ∨ ∃ a ∈ x.2, place <+: a
  | [] => fun _ hx => absurd hx List.not_mem_nil
  | p :: ps => by
    intro x hx
    rw [markedParts] at hx
    rcases List.mem_append.1 hx with hx | hx
    · rcases source_markedPart owner (place ++ [n]) p x hx with h | ⟨a, ha, hplace⟩
      · exact .inl h
      · exact .inr ⟨a, ha, (List.prefix_append place [n]).trans hplace⟩
    · exact source_markedParts owner place (n + 1) ps x hx

theorem source_markedItems (place : Place) (n : Nat) :
    ∀ is, ∀ x ∈ markedItems place n is, ∃ a ∈ x.2, place <+: a
  | [] => fun _ hx => absurd hx List.not_mem_nil
  | i :: is => by
    intro x hx
    rw [markedItems] at hx
    rcases List.mem_append.1 hx with hx | hx
    · obtain ⟨a, ha, hplace⟩ := source_markedItem (place ++ [n]) i x hx
      exact ⟨a, ha, (List.prefix_append place [n]).trans hplace⟩
    · exact source_markedItems place (n + 1) is x hx

end

/-! ## What a line shows last -/

theorem foldl_markedItem (place : Place) (i : Item (List Inline)) (s : Option Place) :
    (markedItem place i).foldl shownAfter s = none := by
  cases i with
  | mk span parts => rw [markedItem, Marked.foldl_break]

theorem foldl_mark_item (owner : Option Place) (i : Item (List Inline)) (s : Option Place) :
    (mark owner (quotedItem i).spell).foldl shownAfter s = none := by
  cases i with
  | mk span parts => rw [spell_item, Marked.mark_append, Marked.foldl_break]

/-- After items nothing is shown yet, unless there were none of them. -/
theorem foldl_markedItems (owner : Option Place) (place : Place) (n : Nat)
    (is : List (Item (List Inline))) (s : Option Place) :
    (markedItems place n is).foldl shownAfter s
      = (mark owner (RichNode.spellAll (quotedItems is))).foldl shownAfter s := by
  induction is generalizing n s with
  | nil => rfl
  | cons i is ih =>
    rw [markedItems, quotedItems, RichNode.spellAll, Marked.mark_append, List.foldl_append,
      List.foldl_append, foldl_markedItem, foldl_mark_item, ih]

/-- **After a part** a line shows last what it would show last after the text of the part. -/
theorem foldl_markedPart (owner : Option Place) (place : Place)
    (p : Markdown.Part (List Inline)) (s : Option Place) :
    (markedPart owner place p).foldl shownAfter s
      = (mark owner (RichNode.spellAll (quotedPart p))).foldl shownAfter s := by
  cases p with
  | quote span parts =>
    rw [markedPart, spellAll_quote, Marked.mark_append, Marked.foldl_break, Marked.foldl_break]
  | list span start items => rw [markedPart, quotedPart, foldl_markedItems owner]
  | _ => rfl

/-! ## Items on a line are nested -/

mutual

theorem nested_markedPart (owner s : Option Place) (place : Place)
    (howner : ∀ a ∈ owner, a <+: place) (hs : ∀ a ∈ s, a ∈ owner) :
    ∀ p, Orderly (· <+: ·) s (markedPart owner place p)
  | .quote _ parts => by
    rw [markedPart, Marked.orderly_append]
    exact ⟨nested_markedParts owner s place 0 howner hs parts, Marked.orderly_newline owner _⟩
  | .list _ _ items => by
    rw [markedPart]
    exact nested_markedItems s place 0 (fun a ha => howner a (hs a ha)) items
  | .paragraph _ _ | .plain _ | .heading _ _ _ | .rule _ | .code _ _ | .html _ _ | .table _ _ _ =>
    Marked.orderly_mark (fun _ _ => List.prefix_rfl)
      (fun a ha b hb => Option.mem_unique (hs a ha) hb ▸ List.prefix_rfl) _

theorem nested_markedItem (s : Option Place) (place : Place) (hs : ∀ a ∈ s, a <+: place) :
    ∀ i, Orderly (· <+: ·) s (markedItem place i)
  | .mk span parts => by
    have hnone : Orderly (· <+: ·) none (markedItem place (.mk span parts)) := by
      have hplace : ∀ a ∈ some place, a <+: place := by
        rintro a ⟨⟩
        exact List.prefix_rfl
      rw [markedItem, Marked.orderly_append]
      exact ⟨nested_markedParts (some place) none place 0 hplace (by rintro _ ⟨⟩) parts,
        Marked.orderly_newline (some place) _⟩
    cases s with
    | none => exact hnone
    | some a =>
      -- the line goes on with an item that is inside all that it has shown
      refine (Marked.orderly_some_iff (R := (· <+: ·)) (fun _ _ _ => List.IsPrefix.trans) a _).2
        ⟨?_, hnone⟩
      intro b hb
      obtain ⟨x, hx, hxb⟩ := Marked.mem_shown hb
      obtain ⟨c, hc, hplace⟩ := source_markedItem place _ x ((List.takeWhile_prefix _).subset hx)
      cases Option.mem_unique hxb hc
      exact (hs a rfl).trans hplace

/-- **Items on a line are nested** in each other, the outer ones first. -/
theorem nested_markedParts (owner s : Option Place) (place : Place) (n : Nat)
    (howner : ∀ a ∈ owner, a <+: place) (hs : ∀ a ∈ s, a ∈ owner) :
    ∀ ps, Orderly (· <+: ·) s (markedParts owner place n ps)
  | [] => trivial
  | p :: ps => by
    have hpart : ∀ a ∈ owner, a <+: place ++ [n] := fun a ha =>
      (howner a ha).trans (List.prefix_append place [n])
    have hafter : ∀ a ∈ (markedPart owner (place ++ [n]) p).foldl shownAfter s, a ∈ owner := by
      intro a ha
      rw [foldl_markedPart] at ha
      rcases Marked.mem_foldl_mark ha with ha | ha
      · exact hs a ha
      · exact ha
    rw [markedParts, Marked.orderly_append]
    exact ⟨nested_markedPart owner s (place ++ [n]) hpart hs p,
      nested_markedParts owner _ place (n + 1) howner hafter ps⟩

theorem nested_markedItems (s : Option Place) (place : Place) (n : Nat)
    (hs : ∀ a ∈ s, a <+: place) : ∀ is, Orderly (· <+: ·) s (markedItems place n is)
  | [] => trivial
  | i :: is => by
    have hitem : ∀ a ∈ s, a <+: place ++ [n] := fun a ha =>
      (hs a ha).trans (List.prefix_append place [n])
    rw [markedItems, Marked.orderly_append, foldl_markedItem]
    exact ⟨nested_markedItem s (place ++ [n]) hitem i,
      nested_markedItems none place (n + 1) (by rintro _ ⟨⟩) is⟩

end

/-! ## Items apart -/

/-- The last line of a text. -/
def lastLine (t : Text) : Text := (t.reverse.takeWhile fun c => !(c == '\n')).reverse

/-- Whether an item does not go on with the last line of the text before it: that line is blank, or the
first line of the item is. -/
def StartsApart (before : Text) (item : Item (List Inline)) : Prop :=
  Text.trim (lastLine before) = []
    ∨ Text.trim ((quotedItem item).spell.takeWhile fun c => !(c == '\n')) = []

mutual

/-- Whether the items of a part go on with no line of the items that they are nested in; `before` is
the text of the innermost item around the part up to it, if it stands in an item. -/
def PartApart (before : Option Text) : Markdown.Part (List Inline) → Prop
  | .quote _ parts => PartsApart before parts
  | .list _ _ items => ItemsApart before items
  | _ => True

/-- The same for an item. -/
def ItemApart (before : Option Text) : Item (List Inline) → Prop
  | .mk span parts => (∀ t ∈ before, StartsApart t (.mk span parts)) ∧ PartsApart (some []) parts

/-- The same for parts; each is text before the next. -/
def PartsApart (before : Option Text) : List (Markdown.Part (List Inline)) → Prop
  | [] => True
  | p :: ps =>
      PartApart before p ∧ PartsApart (before.map (· ++ RichNode.spellAll (quotedPart p))) ps

/-- The same for items; each is text before the next. -/
def ItemsApart (before : Option Text) : List (Item (List Inline)) → Prop
  | [] => True
  | i :: is => ItemApart before i ∧ ItemsApart (before.map (· ++ (quotedItem i).spell)) is

end

instance (before : Text) (item : Item (List Inline)) : Decidable (StartsApart before item) :=
  inferInstanceAs (Decidable (_ ∨ _))

mutual

instance decidablePartApart (before : Option Text) : ∀ p, Decidable (PartApart before p)
  | .quote _ parts => decidablePartsApart before parts
  | .list _ _ items => decidableItemsApart before items
  | .paragraph _ _ | .plain _ | .heading _ _ _ | .rule _ | .code _ _ | .html _ _ | .table _ _ _ =>
    .isTrue trivial

instance decidableItemApart (before : Option Text) : ∀ i, Decidable (ItemApart before i)
  | .mk _ parts => @instDecidableAnd _ _ inferInstance (decidablePartsApart (some []) parts)

instance decidablePartsApart (before : Option Text) : ∀ ps, Decidable (PartsApart before ps)
  | [] => .isTrue trivial
  | p :: ps => @instDecidableAnd _ _ (decidablePartApart before p) (decidablePartsApart _ ps)

instance decidableItemsApart (before : Option Text) : ∀ is, Decidable (ItemsApart before is)
  | [] => .isTrue trivial
  | i :: is => @instDecidableAnd _ _ (decidableItemApart before i) (decidableItemsApart _ is)

end

/-- An item around a part, and its text up to the part. -/
abbrev Surrounding := Place × Text

/-- The item around a part with more text. -/
def grow (around : Option Surrounding) (t : Text) : Option Surrounding :=
  around.map fun a => (a.1, a.2 ++ t)

/-- What the last line of the item around a part shows, if that is anything. -/
def shownAround (around : Option Surrounding) : Option Place :=
  around.bind fun a => if Text.trim (lastLine a.2) = [] then none else some a.1

theorem map_fst_grow (around : Option Surrounding) (t : Text) :
    (grow around t).map Prod.fst = around.map Prod.fst := by
  cases around <;> rfl

theorem map_snd_grow (around : Option Surrounding) (t : Text) :
    (grow around t).map Prod.snd = (around.map Prod.snd).map (· ++ t) := by
  cases around <;> rfl

theorem length_grow {around : Option Surrounding} {k : Nat} {t : Text}
    (h : ∀ a ∈ around, a.1.length ≤ k) : ∀ a ∈ grow around t, a.1.length ≤ k := by
  intro a ha
  obtain ⟨b, hb, rfl⟩ := Option.mem_map.1 ha
  exact h b hb

/-- Own text of an item goes with what its line has shown. -/
theorem orderly_own (around : Option Surrounding) (t : Text) :
    Orderly (· = ·) (shownAround around) (mark (around.map Prod.fst) t) := by
  refine Marked.orderly_mark (fun _ _ => rfl) (fun a ha b hb => ?_) t
  obtain ⟨around, h, ha⟩ := Option.mem_bind_iff.1 ha
  obtain ⟨around', h', rfl⟩ := Option.mem_map.1 hb
  cases Option.mem_unique h h'
  split at ha
  · cases ha
  · cases ha
    rfl

theorem lastLine_concat (t : Text) (c : Char) :
    lastLine (t ++ [c]) = if c = '\n' then [] else lastLine t ++ [c] := by
  rw [lastLine, List.reverse_append, List.reverse_singleton, List.singleton_append]
  by_cases hc : c = '\n'
  · subst hc
    rfl
  · rw [List.takeWhile_cons_of_pos (by simpa using hc), List.reverse_cons, if_neg hc]
    rfl

/-- One more character of the item. -/
theorem shownAfter_around (a : Place) (before : Text) (c : Char) :
    shownAfter (shownAround (some (a, before))) (c, some a)
      = shownAround (some (a, before ++ [c])) := by
  show (if c == '\n' then none else if Text.isBlank c then shownAround (some (a, before)) else some a)
    = if Text.trim (lastLine (before ++ [c])) = [] then none else some a
  rw [lastLine_concat]
  by_cases hc : c = '\n'
  · rw [if_pos (beq_iff_eq.2 hc), if_pos hc]
    rfl
  · rw [if_neg (by simpa using hc), if_neg hc]
    cases hblank : Text.isBlank c with
    | true =>
      have hsame : Text.trim (lastLine before ++ [c]) = Text.trim (lastLine before) :=
        Text.trim_append_blank (List.forall_mem_singleton.2 hblank) _
      rw [hsame]
      rfl
    | false =>
      have hshows : Text.trim (lastLine before ++ [c]) ≠ [] := by
        intro h
        have hc := Text.trim_eq_nil_iff.1 h c (List.mem_append_right _ List.mem_cons_self)
        rw [hblank] at hc
        cases hc
      rw [if_neg hshows]
      rfl

/-- **What is shown last** goes along with the text of the item around. -/
theorem foldl_mark_around (around : Option Surrounding) (t : Text) :
    (mark (around.map Prod.fst) t).foldl shownAfter (shownAround around)
      = shownAround (grow around t) := by
  cases around with
  | none =>
    refine Option.eq_none_iff_forall_not_mem.2 fun a ha => ?_
    rcases Marked.mem_foldl_mark ha with ha | ha <;> cases ha
  | some around =>
    obtain ⟨a, before⟩ := around
    induction t generalizing before with
    | nil =>
      show shownAround (some (a, before)) = shownAround (some (a, before ++ []))
      rw [List.append_nil]
    | cons c t ih =>
      show (mark (some a) t).foldl shownAfter (shownAfter (shownAround (some (a, before))) (c, some a))
        = shownAround (some (a, before ++ c :: t))
      rw [shownAfter_around]
      refine (ih (before ++ [c])).trans ?_
      show shownAround (some (a, before ++ [c] ++ t)) = _
      rw [List.append_assoc, List.singleton_append]

/-- An item goes on with a line of the item around it, unless it starts apart. -/
theorem orderly_markedItem_iff (around : Option Surrounding) (place : Place) (item : Item (List Inline))
    (h : ∀ a ∈ around, a.1.length < place.length) :
    Orderly (· = ·) (shownAround around) (markedItem place item) ↔
      (∀ t ∈ around.map Prod.snd, StartsApart t item) ∧
        Orderly (· = ·) none (markedItem place item) := by
  cases around with
  | none => exact (and_iff_right (by rintro _ ⟨⟩)).symm
  | some around =>
    obtain ⟨a, before⟩ := around
    have hsource : ∀ x ∈ firstLine (markedItem place item), ∃ b ∈ x.2, a ≠ b := by
      intro x hx
      obtain ⟨b, hb, hplace⟩ := source_markedItem place item x ((List.takeWhile_prefix _).subset hx)
      refine ⟨b, hb, ?_⟩
      rintro rfl
      exact absurd hplace.length_le (Nat.not_le.2 (h _ rfl))
    have hmarked : ∀ x ∈ firstLine (markedItem place item), x.2 ≠ none := by
      intro x hx hnone
      obtain ⟨b, hb, -⟩ := hsource x hx
      rw [hnone] at hb
      cases hb
    -- the sources of the first line are all inside the item, so none of them is the item around
    have hfirst : (∀ b ∈ shown (firstLine (markedItem place item)), a = b)
        ↔ Text.trim ((quotedItem item).spell.takeWhile fun c => !(c == '\n')) = [] := by
      rw [← bare_markedItem place, ← Marked.bare_firstLine, ← Marked.shown_eq_nil_iff hmarked]
      constructor
      · intro hall
        refine List.eq_nil_iff_forall_not_mem.2 fun b hb => ?_
        obtain ⟨x, hx, hxb⟩ := Marked.mem_shown hb
        obtain ⟨c, hc, hne⟩ := hsource x hx
        cases Option.mem_unique hxb hc
        exact hne (hall b hb)
      · intro hnil b hb
        rw [hnil] at hb
        cases hb
    have hstart : (∀ t ∈ some before, StartsApart t item) ↔ StartsApart before item := by simp
    show Orderly _ (if Text.trim (lastLine before) = [] then none else some a) _
      ↔ (∀ t ∈ some before, StartsApart t item) ∧ _
    rw [hstart, StartsApart, ← hfirst]
    by_cases hbefore : Text.trim (lastLine before) = []
    · rw [if_pos hbefore]
      exact (and_iff_right (.inl hbefore)).symm
    · rw [if_neg hbefore, or_iff_right hbefore]
      exact Marked.orderly_some_iff (R := (· = ·)) (fun _ _ _ => Eq.trans) a _

mutual

theorem apart_markedPart (around : Option Surrounding) (place : Place)
    (h : ∀ a ∈ around, a.1.length ≤ place.length) :
    ∀ p, Orderly (· = ·) (shownAround around) (markedPart (around.map Prod.fst) place p)
      ↔ PartApart (around.map Prod.snd) p
  | .quote _ parts => by
    rw [markedPart, PartApart, Marked.orderly_append]
    exact (and_iff_left (Marked.orderly_newline _ _)).trans (apart_markedParts around place 0 h parts)
  | .list _ _ items => by
    rw [markedPart, PartApart]
    exact apart_markedItems around place 0 h items
  | .paragraph _ _ | .plain _ | .heading _ _ _ | .rule _ | .code _ _ | .html _ _ | .table _ _ _ =>
    iff_of_true (orderly_own around _) trivial

theorem apart_markedItem (around : Option Surrounding) (place : Place)
    (h : ∀ a ∈ around, a.1.length < place.length) :
    ∀ i, Orderly (· = ·) (shownAround around) (markedItem place i)
      ↔ ItemApart (around.map Prod.snd) i
  | .mk span parts => by
    have hself : ∀ a ∈ some (place, ([] : Text)), a.1.length ≤ place.length := by
      rintro _ ⟨⟩
      exact Nat.le_refl _
    have hparts : Orderly (· = ·) none (markedParts (some place) place 0 parts)
        ↔ PartsApart (some []) parts := apart_markedParts (some (place, [])) place 0 hself parts
    have hitem : Orderly (· = ·) none (markedItem place (.mk span parts))
        ↔ PartsApart (some []) parts := by
      rw [markedItem, Marked.orderly_append, hparts]
      exact and_iff_left (Marked.orderly_newline _ _)
    rw [orderly_markedItem_iff around place _ h, hitem, ItemApart]

/-- **Items are apart** just when each nested item starts apart. -/
theorem apart_markedParts (around : Option Surrounding) (place : Place) (n : Nat)
    (h : ∀ a ∈ around, a.1.length ≤ place.length) :
    ∀ ps, Orderly (· = ·) (shownAround around) (markedParts (around.map Prod.fst) place n ps)
      ↔ PartsApart (around.map Prod.snd) ps
  | [] => iff_of_true trivial trivial
  | p :: ps => by
    have hpart : ∀ a ∈ around, a.1.length ≤ (place ++ [n]).length := by
      intro a ha
      rw [List.length_append]
      exact Nat.le_add_right_of_le (h a ha)
    have hrest := apart_markedParts (grow around (RichNode.spellAll (quotedPart p))) place (n + 1)
      (length_grow h) ps
    rw [map_fst_grow, map_snd_grow] at hrest
    rw [markedParts, PartsApart, Marked.orderly_append, foldl_markedPart, foldl_mark_around, hrest,
      apart_markedPart around (place ++ [n]) hpart p]

theorem apart_markedItems (around : Option Surrounding) (place : Place) (n : Nat)
    (h : ∀ a ∈ around, a.1.length ≤ place.length) :
    ∀ is, Orderly (· = ·) (shownAround around) (markedItems place n is)
      ↔ ItemsApart (around.map Prod.snd) is
  | [] => iff_of_true trivial trivial
  | i :: is => by
    have hitem : ∀ a ∈ around, a.1.length < (place ++ [n]).length := by
      intro a ha
      rw [List.length_append]
      exact Nat.lt_succ_of_le (h a ha)
    have hrest := apart_markedItems (grow around (quotedItem i).spell) place (n + 1)
      (length_grow h) is
    rw [map_snd_grow, ← foldl_mark_around, foldl_mark_item] at hrest
    rw [markedItems, ItemsApart, Marked.orderly_append, foldl_markedItem, hrest,
      apart_markedItem around (place ++ [n]) hitem i]

end

/-! ## Lines of a comment -/

/-- **Which items share a line of a comment.**  A quote is read to the nodes of its parts, whatever lists
and quotes are nested in it.  On every line of its flat form, the items that show text are nested in each
other, the outer ones first; so siblings, and items in different items, never share a line.  And no two
items share a line at all just when each nested item starts apart from the item around it. -/
theorem items_on_own_lines_iff (file : Nat) (span : Span)
    (parts : List (Markdown.Part (List Inline))) :
    (∀ page rest, Page.readEvents file page (Part.events (.quote span parts) ++ rest)
        = Page.readEvents file ⟨page.blocks ++ [.quote (quotedParts parts)],
            page.omissions ++ quotedOmissions file parts⟩ rest) ∧
      (quoteLines parts).map bare = Text.lines (RichText.flatten (quotedParts parts)) ∧
      (∀ line ∈ quoteLines parts, (shown line).Pairwise (· <+: ·)) ∧
      ((∀ line ∈ quoteLines parts, ∀ a ∈ shown line, ∀ b ∈ shown line, a = b)
        ↔ PartsApart none parts) := by
  have hnested : Orderly (· <+: ·) none (markedParts none [] 0 parts) :=
    nested_markedParts none none [] 0 (by rintro _ ⟨⟩) (by rintro _ ⟨⟩) parts
  have hapart : Orderly (· = ·) none (markedParts none [] 0 parts) ↔ PartsApart none parts :=
    apart_markedParts none [] 0 (by rintro _ ⟨⟩) parts
  have heq : ∀ line : List (Marked Place),
      (∀ a ∈ shown line, ∀ b ∈ shown line, a = b) ↔ (shown line).Pairwise (· = ·) := by
    intro line
    constructor
    · intro h
      exact List.pairwise_of_forall_mem_list h
    · intro h a ha b hb
      exact List.Pairwise.forall_of_forall (R := (· = ·)) (fun _ _ => rfl) h ha hb
  refine ⟨?_, map_bare_quoteLines parts, ?_, ?_⟩
  · exact readAs_part (.quote span parts)
  · rw [← Marked.orderly_flatten] at hnested
    exact (Marked.orderly_none_iff (R := (· <+: ·)) (fun _ _ _ => List.IsPrefix.trans) _).1 hnested
  · rw [← hapart, ← Marked.orderly_flatten,
      Marked.orderly_none_iff (R := (· = ·)) fun _ _ _ => Eq.trans]
    exact forall₂_congr fun line _ => heq line

/-- The quotes of a document that stand in no other part. -/
def quotes (ps : List (Markdown.Part (List Inline))) :
    List (List (Markdown.Part (List Inline))) :=
  ps.filterMap fun
    | .quote _ parts => some parts
    | _ => none

/-- Items are apart if the text of the item around is a paragraph. -/
example : ∀ parts ∈ quotes (Markdown.document "> - a\n>\n>   - b\n>   - c\n".toList),
    PartsApart none parts := by decide +kernel

/-- A page with a tight item nested in another, in a quote. -/
def nestedItemPage : Text :=
  "# T\n\n## Feature\n\n### Background\n\nGiven x\n\n> - a\n>   - b\n".toList

/-- A nested item goes on with the line of the item around it, which is tight: no break is put between
them, and the comment runs their texts together. -/
theorem nestedItem_shares_line :
    (Extraction.run {} (Page.read 0 nestedItemPage).blocks).toOption.map Outline.comments
        = some ["  ab".toList] ∧
      ¬ ∀ parts ∈ quotes (Markdown.document nestedItemPage), ∀ line ∈ quoteLines parts,
          ∀ a ∈ shown line, ∀ b ∈ shown line, a = b := by
  constructor <;> decide +kernel

end Scenarist.Reading
