/-
  Sites — what may stand where in the events of a page.

  1. A group stands at a site and makes one for what is inside it.  `Site.within` is the grammar of
     Markdown as far as it matters where text may stand: text is in lines and loose in items, rows
     hold cells, and lists hold items.  What is inside a quote, or inside anything that a page, an
     item or a quote has no place for, may be whatever it likes.

  2. `Fits` says that trees keep to the grammar.  The trees of a document do, whatever the source
     (`fits_document`).

  3. In a line of text nothing stands but inline content (`exists_inlineTrees`).
-/
import Scenarist.Proofs.Markdown.Document
import Scenarist.Proofs.Markdown.EventTree

namespace Scenarist.Markdown

/-- Where events stand. -/
inductive Site where
  /-- A page. -/
  | page
  /-- A line of text. -/
  | line
  /-- An item of a list. -/
  | item
  /-- A list, between its items. -/
  | list
  /-- A table, between its rows. -/
  | table
  /-- A row of a table, between its cells. -/
  | row
  /-- Where nothing is asked. -/
  | anywhere
  deriving DecidableEq, Repr

namespace Site

/-- Whether a single event may stand at a site: where there is no line, it has no text. -/
def takes : Site → Event → Bool
  | .line, .text _ | .line, .code _ | .line, .softBreak | .line, .hardBreak => true
  | .line, .inlineHtml => true
  | .line, _ => false
  | .item, _ | .anywhere, _ => true
  | _, e => e.chars.isEmpty

/-- The site that is inside a group at a site; none if the group may not stand there. -/
def within : Site → Tag → Option Site
  | .page, .paragraph | .page, .heading _ => some .line
  | .page, .list none => some .list
  | .page, .table => some .table
  | .page, _ => some .anywhere
  | .line, tag => if tag.isInline then some .line else none
  | .item, .paragraph => some .line
  | .item, .list none => some .list
  | .item, tag => if tag.isInline then some .line else some .anywhere
  | .list, .item => some .item
  | .list, _ => none
  | .table, .tableHead | .table, .tableRow => some .row
  | .table, _ => none
  | .row, .tableCell => some .line
  | .row, _ => none
  | .anywhere, _ => some .anywhere

end Site

mutual

/-- Whether a tree may stand at a site, and all that is in it where it stands. -/
def EventTree.Fits : Site → EventTree → Prop
  | site, .mark event _ _ => site.takes event = true
  | site, .group tag _ inner =>
      match site.within tag with
      | some within => Fits within inner
      | none => False

/-- Whether trees may stand at a site. -/
def Fits : Site → List EventTree → Prop
  | _, [] => True
  | site, t :: ts => t.Fits site ∧ Fits site ts

end

mutual

/-- It can be checked whether a tree fits. -/
instance EventTree.decidableFits : ∀ (site : Site) (t : EventTree), Decidable (t.Fits site)
  | site, .mark event _ _ => inferInstanceAs (Decidable (site.takes event = true))
  | site, .group tag _ inner =>
      match h : site.within tag with
      | some within =>
          have := decidableFits within inner
          decidable_of_iff (Fits within inner) (by rw [EventTree.Fits, h])
      | none => .isFalse (by rw [EventTree.Fits, h]; exact id)

/-- It can be checked whether trees fit. -/
instance decidableFits : ∀ (site : Site) (ts : List EventTree), Decidable (Fits site ts)
  | _, [] => inferInstanceAs (Decidable True)
  | site, t :: ts =>
      have := t.decidableFits site
      have := decidableFits site ts
      inferInstanceAs (Decidable (t.Fits site ∧ Fits site ts))

end

variable {site within : Site} {tag : Tag} {span : Span} {ts us : List EventTree}

theorem fits_group (h : site.within tag = some within) :
    (EventTree.group tag span ts).Fits site ↔ Fits within ts := by
  rw [EventTree.Fits, h]

/-- A group stands only where there is a site for what is inside it. -/
theorem exists_within (h : (EventTree.group tag span ts).Fits site) :
    ∃ within, site.within tag = some within ∧ Fits within ts := by
  cases hwithin : site.within tag with
  | some within => exact ⟨within, rfl, (fits_group hwithin).1 h⟩
  | none =>
    rw [EventTree.Fits, hwithin] at h
    exact h.elim

theorem fits_append : Fits site (ts ++ us) ↔ Fits site ts ∧ Fits site us := by
  induction ts with
  | nil => exact (and_iff_right trivial).symm
  | cons t ts ih => rw [List.cons_append, Fits, Fits, ih, and_assoc]

theorem fits_map {α : Type} {f : α → EventTree} {xs : List α} (h : ∀ x ∈ xs, (f x).Fits site) :
    Fits site (xs.map f) := by
  induction xs with
  | nil => trivial
  | cons x xs ih =>
    obtain ⟨hx, hxs⟩ := List.forall_mem_cons.1 h
    exact ⟨hx, ih hxs⟩

mutual

theorem fits_anywhere_tree : ∀ t : EventTree, t.Fits .anywhere
  | .mark _ _ _ => rfl
  | .group _ _ inner => (fits_group rfl).2 (fits_anywhere inner)

/-- Where nothing is asked, all trees fit. -/
theorem fits_anywhere : ∀ ts : List EventTree, Fits .anywhere ts
  | [] => trivial
  | t :: ts => ⟨fits_anywhere_tree t, fits_anywhere ts⟩

end

/-! ## Documents -/

theorem within_line (kind : Group) : Site.within .line kind.tag = some .line := by
  cases kind <;> rfl

theorem within_item (kind : Group) : Site.within .item kind.tag = some .line := by
  cases kind <;> rfl

theorem exists_group {tag : Tag} (h : tag.isInline = true) : ∃ kind : Group, kind.tag = tag := by
  cases tag with
  | emphasis => exact ⟨.emphasis, rfl⟩
  | strong => exact ⟨.strong, rfl⟩
  | strikethrough => exact ⟨.strikethrough, rfl⟩
  | link address => exact ⟨.link address, rfl⟩
  | image address => exact ⟨.image address, rfl⟩
  | _ => cases h

/-- Inline content may stand loose in an item just where it may stand in a line. -/
theorem fits_line_of_item (hinline : tag.isInline = true)
    (h : (EventTree.group tag span ts).Fits .item) : (EventTree.group tag span ts).Fits .line := by
  obtain ⟨kind, rfl⟩ := exists_group hinline
  exact (fits_group (within_line kind)).2 ((fits_group (within_item kind)).1 h)

mutual

theorem fits_inlineTree : ∀ node : Inline, node.tree.Fits .line
  | .leaf _ leaf => by cases leaf <;> rfl
  | .group _ kind parts => (fits_group (within_line kind)).2 (fits_inlineTrees parts)

/-- Inline content makes a line. -/
theorem fits_inlineTrees : ∀ nodes : List Inline, Fits .line (inlineTrees nodes)
  | [] => trivial
  | node :: nodes => ⟨fits_inlineTree node, fits_inlineTrees nodes⟩

end

/-- Inline content may also stand loose in an item. -/
theorem fits_item_inlineTrees : ∀ nodes : List Inline, Fits .item (inlineTrees nodes)
  | [] => trivial
  | .leaf _ _ :: nodes => ⟨rfl, fits_item_inlineTrees nodes⟩
  | .group _ kind parts :: nodes =>
    ⟨(fits_group (within_item kind)).2 (fits_inlineTrees parts), fits_item_inlineTrees nodes⟩

theorem fits_cellTree (c : Cell (List Inline)) : c.tree.Fits .row :=
  (fits_group rfl).2 (fits_inlineTrees c.content)

theorem fits_rowTree {tag : Tag} (htag : Site.within .table tag = some .row)
    (r : Row (List Inline)) : (r.tree tag).Fits .table :=
  (fits_group htag).2 (fits_map fun c _ => fits_cellTree c)

mutual

theorem fits_item_trees : ∀ p : Part (List Inline), Fits .item p.trees
  | .paragraph _ content => ⟨(fits_group rfl).2 (fits_inlineTrees content), trivial⟩
  | .plain content => fits_item_inlineTrees content
  | .list _ none items => ⟨(fits_group rfl).2 (fits_itemTrees items), trivial⟩
  | .rule _ => ⟨rfl, trivial⟩
  | .heading _ _ _ | .code _ _ | .html _ _ | .table _ _ _ | .quote _ _ | .list _ (some _) _ =>
    ⟨(fits_group rfl).2 (fits_anywhere _), trivial⟩

theorem fits_item_partTrees : ∀ ps : List (Part (List Inline)), Fits .item (partTrees ps)
  | [] => trivial
  | p :: ps => fits_append.2 ⟨fits_item_trees p, fits_item_partTrees ps⟩

/-- Items make a list. -/
theorem fits_itemTrees : ∀ is : List (Item (List Inline)), Fits .list (itemTrees is)
  | [] => trivial
  | .mk _ parts :: is => ⟨(fits_group rfl).2 (fits_item_partTrees parts), fits_itemTrees is⟩

end

theorem fits_trees {p : Part (List Inline)} (hplain : p.isPlain = false) :
    Fits .page p.trees := by
  cases p with
  | paragraph span content => exact ⟨(fits_group rfl).2 (fits_inlineTrees content), trivial⟩
  | plain content => cases hplain
  | heading span level content => exact ⟨(fits_group rfl).2 (fits_inlineTrees content), trivial⟩
  | rule span => exact ⟨rfl, trivial⟩
  | table span head rows =>
    refine ⟨(fits_group rfl).2 ⟨fits_rowTree rfl head, fits_map fun r _ => fits_rowTree rfl r⟩,
      trivial⟩
  | list span start items =>
    cases start with
    | none => exact ⟨(fits_group rfl).2 (fits_itemTrees items), trivial⟩
    | some first => exact ⟨(fits_group rfl).2 (fits_anywhere _), trivial⟩
  | _ => exact ⟨(fits_group rfl).2 (fits_anywhere _), trivial⟩

/-- Parts make a page if none is loose text. -/
theorem fits_partTrees {ps : List (Part (List Inline))} (hplain : ∀ p ∈ ps, p.isPlain = false) :
    Fits .page (partTrees ps) := by
  induction ps with
  | nil => trivial
  | cons p ps ih =>
    obtain ⟨hp, hps⟩ := List.forall_mem_cons.1 hplain
    exact fits_append.2 ⟨fits_trees hp, ih hps⟩

/-- **Documents keep to the grammar.** -/
theorem fits_document (source : Text) : Fits .page (partTrees (document source)) :=
  fits_partTrees fun _ hp => isPlain_of_mem_document hp

/-! ## Lines -/

theorem exists_leaf {event : Event} (h : Site.takes .line event = true) :
    ∃ leaf : Leaf, leaf.event = event := by
  cases event with
  | text t => exact ⟨.text t, rfl⟩
  | code t => exact ⟨.code t, rfl⟩
  | softBreak => exact ⟨.softBreak, rfl⟩
  | hardBreak => exact ⟨.hardBreak, rfl⟩
  | inlineHtml => exact ⟨.html, rfl⟩
  | _ => cases h

mutual

theorem exists_inlineTree : ∀ t : EventTree, t.Fits .line → ∃ node : Inline, node.tree = t
  | .mark event span h, hfits => by
    obtain ⟨leaf, rfl⟩ := exists_leaf hfits
    exact ⟨.leaf span leaf, rfl⟩
  | .group tag span inner, hfits => by
    obtain ⟨within, hwithin, hinner⟩ := exists_within hfits
    rw [Site.within, Option.ite_none_right_eq_some] at hwithin
    obtain ⟨hinline, hline⟩ := hwithin
    cases hline
    obtain ⟨kind, rfl⟩ := exists_group hinline
    obtain ⟨nodes, rfl⟩ := exists_inlineTrees inner hinner
    exact ⟨.group span kind nodes, rfl⟩

/-- **A line of text is inline content.** -/
theorem exists_inlineTrees : ∀ ts : List EventTree, Fits .line ts →
    ∃ nodes : List Inline, inlineTrees nodes = ts
  | [], _ => ⟨[], rfl⟩
  | t :: ts, ⟨ht, hts⟩ => by
    obtain ⟨node, rfl⟩ := exists_inlineTree t ht
    obtain ⟨nodes, rfl⟩ := exists_inlineTrees ts hts
    exact ⟨node :: nodes, rfl⟩

end

end Scenarist.Markdown
