/-
  List reading — the bullets of a list, each with the text of its item.

  1. The reader takes a run of text in one go, though it may come from several parts.  So the
     induction on the tree needs the state in which a run is open (`pending`); an item without an
     open run reads on as if an empty one were (`bullets_pending`).

  2. `ListedAs` says what events add to a list.  A part takes the text of the item and the open run
     to the next (`afterPart`), and puts the bullets of the lists inside it after those there are
     (`pending_part`, `listedAs_items`).

  3. When the item ends, its runs have been joined to its text (`joinRun_afterParts`,
     `foldl_joinRun`).
-/
import Scenarist.Proofs.Page.LineReading

namespace Scenarist.Reading

open Markdown (Inline Part Item Span Tag Event Located EventTree around inlineEvents partEvents
  itemEvents treeEvents)

variable {file : Nat} {before blocks : List Block} {below : List Open} {omissions : List Omission}
  {text run : Text}

/-! ## The open run -/

theorem joinRun_nil (text : Text) : joinRun text [] = text := rfl

/-- Reading on in an item while a run of its text is open. -/
def pending (file : Nat) (before : List Block) (text : Text) (below : List Open) (run : Text)
    (blocks : List Block) (omissions : List Omission) (es : List Located) : ListReading :=
  let line := inlineText .label [] run es
  bullets file (.item before (joinRun text line.1) :: below) blocks omissions line.2

/-- Where a line ends, the run is put to the text of the item. -/
theorem pending_stop {e : Event} (h : inLine e = false) (span : Span) (rest : List Located) :
    pending file before text below run blocks omissions ((e, span) :: rest)
      = bullets file (.item before (joinRun text run) :: below) blocks omissions
          ((e, span) :: rest) := by
  rw [pending, inlineText_stop h]

/-- What belongs to a line is taken into it. -/
theorem inlineText_lt {e : Event} (h : inLine e = true) (span : Span) (rest : List Located) :
    (inlineText .label [] [] ((e, span) :: rest)).2.length < ((e, span) :: rest).length := by
  have hrest : ∀ links text,
      (inlineText .label links text rest).2.length < ((e, span) :: rest).length :=
    fun links text => Nat.lt_succ_of_le (inlineText_length .label links text rest)
  cases e with
  | start tag => cases tag <;> first | exact hrest _ _ | cases h
  | finish tag => cases tag <;> first | exact hrest _ _ | cases h
  | _ => first | exact hrest _ _ | cases h

/-- What belongs to a line starts a run of the item. -/
theorem bullets_inLine {e : Event} (h : inLine e = true) (span : Span) (rest : List Located) :
    bullets file (.item before text :: below) blocks omissions ((e, span) :: rest)
      = pending file before text below [] blocks omissions ((e, span) :: rest) := by
  have hrun : runText ((e, span) :: rest) = inlineText .label [] [] ((e, span) :: rest) := by
    have hlt := inlineText_lt h span rest
    simp only [runText, Nat.ne_of_lt hlt, if_false]
  rw [pending, ← hrun]
  revert h
  cases e with
  | start tag => cases tag <;> simp [inLine, Tag.isInline, bullets]
  | finish tag => cases tag <;> simp [inLine, bullets]
  | _ => simp [inLine, bullets]

/-- An item reads on as if an empty run were open. -/
theorem bullets_pending (es : List Located) :
    bullets file (.item before text :: below) blocks omissions es
      = pending file before text below [] blocks omissions es := by
  cases es with
  | nil => rfl
  | cons e es =>
    obtain ⟨e, span⟩ := e
    cases h : inLine e with
    | true => exact bullets_inLine h span es
    | false => rw [pending_stop h, joinRun_nil]

/-! ## The text of an item -/

/-- The text of an item and its open run after a part. -/
def afterPart : Text × Text → Markdown.Part (List Inline) → Text × Text
  | (text, run), .plain content => (text, run ++ contentText .label content)
  | (text, run), .paragraph _ content =>
      (joinRun (joinRun text run) (contentText .label content), [])
  | (text, run), _ => (joinRun text run, [])

/-- When the last run has ended, the runs of the item have been put to its text in order. -/
theorem joinRun_afterParts (ps : List (Markdown.Part (List Inline))) : ∀ text run : Text,
    joinRun (ps.foldl afterPart (text, run)).1 (ps.foldl afterPart (text, run)).2
      = (runs run ps).foldl joinRun text := by
  induction ps with
  | nil =>
    intro text run
    rfl
  | cons p ps ih =>
    intro text run
    rw [List.foldl_cons]
    -- whatever the part does to text and run, `runs` does as well
    cases p <;> exact ih _ _

/-- Runs put to a text one by one are joined to it by single spaces. -/
theorem foldl_joinRun (texts : List Text) : ∀ text : Text,
    texts.foldl joinRun text
      = List.intercalate [' '] ((text :: texts.map Text.trim).filter fun run => !run.isEmpty) := by
  induction texts with
  | nil =>
    intro text
    cases text <;> simp
  | cons t texts ih =>
    intro text
    rw [List.foldl_cons, ih, List.map_cons]
    -- a blank run is left out; else it matters whether there is text before it
    cases ht : Text.trim t with
    | nil =>
      have hjoin : joinRun text t = text := by simp [joinRun, ht]
      rw [hjoin]
      simp [List.filter_cons]
    | cons c cs =>
      cases text with
      | nil =>
        have hjoin : joinRun [] t = c :: cs := by simp [joinRun, ht]
        rw [hjoin]
        simp
      | cons d ds =>
        have hjoin : joinRun (d :: ds) t = d :: ds ++ ' ' :: c :: cs := by simp [joinRun, ht]
        rw [hjoin]
        cases hrest : (texts.map Text.trim).filter (fun run => !run.isEmpty) <;>
          simp [hrest]

/-! ## Parts and items -/

/-- A group that is left out of an item ends the run before it. -/
theorem pending_skipped {tag : Tag} (hline : tag.isInline = false) (hparagraph : tag ≠ .paragraph)
    (hlist : tag ≠ .list none) (span : Span) (inner : List EventTree) (rest : List Located) :
    pending file before text below run blocks omissions
        (around tag span (treeEvents inner) ++ rest)
      = pending file before (joinRun text run) below [] blocks
          (omissions ++ [omission file tag span]) rest := by
  have hskip := skip_around tag span inner rest
  rw [around_append] at hskip
  rw [around_append, pending_stop (e := .start tag) hline, bullets, hline,
    if_neg Bool.false_ne_true, hskip, bullets_pending]
  · exact hparagraph
  · exact hlist

theorem pending_leftOut {p : Markdown.Part (List Inline)} {tag : Tag} {span : Span}
    {inner : List EventTree} (htree : p.trees = [.group tag span inner])
    (hleft : leftOut file p = [omission file tag span])
    (hline : tag.isInline = false) (hparagraph : tag ≠ .paragraph) (hlist : tag ≠ .list none)
    (rest : List Located) :
    pending file before text below run blocks omissions (p.events ++ rest)
      = pending file before (joinRun text run) below [] blocks (omissions ++ leftOut file p)
          rest := by
  rw [← Markdown.treeEvents_trees, htree, Markdown.treeEvents_group,
    pending_skipped hline hparagraph hlist, hleft]

/-- A single event that belongs to no line is passed over. -/
theorem pending_mark {event : Event} (hmark : event.isMark = true) (hline : inLine event = false)
    (span : Span) (rest : List Located) :
    pending file before text below run blocks omissions ((event, span) :: rest)
      = pending file before (joinRun text run) below [] blocks omissions rest := by
  have hpass : bullets file (.item before (joinRun text run) :: below) blocks omissions
      ((event, span) :: rest)
        = bullets file (.item before (joinRun text run) :: below) blocks omissions rest := by
    revert hmark hline
    cases event <;> simp [Event.isMark, inLine, bullets, runText, inlineText, joinRun_nil]
  rw [pending_stop hline, hpass, bullets_pending]

/-- A paragraph of an item is a run for itself. -/
theorem pending_paragraph (span : Span) (nodes : List Inline) (rest : List Located) :
    pending file before text below run blocks omissions
        (around .paragraph span (inlineEvents nodes) ++ rest)
      = pending file before (joinRun (joinRun text run) (contentText .label nodes)) below [] blocks
          omissions rest := by
  rw [around_append, pending_stop rfl, bullets]
  simp only [Tag.finish, leafText_content (show inLine (.finish .paragraph) = false from rfl)]
  rw [bullets_pending]

theorem bullets_finish_item (span : Span) (rest : List Located) :
    bullets file (.item before text :: below) blocks omissions ((.finish .item, span) :: rest)
      = bullets file below (before ++ .bullet text :: blocks) omissions rest := by
  rw [bullets]

theorem bullets_finish_list (span : Span) (rest : List Located) :
    bullets file (.list :: below) blocks omissions ((.finish .list, span) :: rest)
      = bullets file below blocks omissions rest := by
  rw [bullets]

/-- Events that add the given bullets to a list, and the given omissions, whatever is open around it
and whatever follows. -/
def ListedAs (file : Nat) (es : List Located) (added : List Block) (left : List Omission) : Prop :=
  ∀ (below : List Open) (blocks : List Block) (omissions : List Omission) (rest : List Located),
    bullets file (.list :: below) blocks omissions (es ++ rest)
      = bullets file (.list :: below) (blocks ++ added) (omissions ++ left) rest

namespace ListedAs

variable {es fs : List Located} {added added' : List Block} {left left' : List Omission}

theorem nil : ListedAs file [] [] [] := by
  intro below blocks omissions rest
  rw [List.nil_append, List.append_nil, List.append_nil]

theorem append (hes : ListedAs file es added left) (hfs : ListedAs file fs added' left') :
    ListedAs file (es ++ fs) (added ++ added') (left ++ left') := by
  intro below blocks omissions rest
  rw [List.append_assoc, hes, hfs, List.append_assoc, List.append_assoc]

/-- A single event between items is passed over. -/
theorem mark {event : Event} (h : event.isMark = true) (span : Span) :
    ListedAs file [(event, span)] [] [] := by
  intro below blocks omissions rest
  rw [List.append_nil, List.append_nil]
  revert h
  cases event <;> simp [Event.isMark, bullets]

/-- A list is read up to its own end. -/
theorem bullets_eq (hes : ListedAs file es added left) (span : Span) (rest : List Located) :
    bullets file [.list] [] [] (es ++ (.finish .list, span) :: rest) = ⟨added, left, rest⟩ := by
  rw [hes, bullets_finish_list, List.nil_append, List.nil_append]
  cases rest with
  | nil =>
    rw [bullets]
    rfl
  | cons e es => rw [bullets]

end ListedAs

/-- The list in an item is read with the item on the stack below it. -/
theorem pending_list {es : List Located} {added : List Block} {left : List Omission}
    (hes : ListedAs file es added left) (span : Span) (rest : List Located) :
    pending file before text below run blocks omissions (around (.list none) span es ++ rest)
      = pending file before (joinRun text run) below [] (blocks ++ added) (omissions ++ left)
          rest := by
  rw [around_append, pending_stop rfl, bullets, hes, Tag.finish, bullets_finish_list,
    bullets_pending]

mutual

/-- A part changes text, run and bullets of the item, and none of what comes after it. -/
theorem pending_part : ∀ (p : Markdown.Part (List Inline)) (before : List Block) (text : Text)
    (below : List Open) (run : Text) (blocks : List Block) (omissions : List Omission)
    (rest : List Located),
    pending file before text below run blocks omissions (p.events ++ rest)
      = pending file before (afterPart (text, run) p).1 below (afterPart (text, run) p).2
          (blocks ++ nestedBullets p) (omissions ++ listedOmission file p) rest
  | .paragraph span content, before, text, below, run, blocks, omissions, rest => by
    rw [Part.events, pending_paragraph]
    simp [afterPart, nestedBullets, listedOmission]
  | .plain content, before, text, below, run, blocks, omissions, rest => by
    rw [Part.events, pending, inlineText_content]
    simp [pending, afterPart, nestedBullets, listedOmission, leftOut]
  | .list span none items, before, text, below, run, blocks, omissions, rest => by
    rw [Part.events, pending_list (listedAs_items items), nestedBullets, listedOmission]
    rfl
  | .rule span, before, text, below, run, blocks, omissions, rest => by
    rw [Part.events, List.singleton_append, pending_mark rfl rfl]
    simp [afterPart, nestedBullets, listedOmission, leftOut]
  | .heading span level content, before, text, below, run, blocks, omissions, rest => by
    rw [pending_leftOut rfl rfl rfl (by rintro ⟨⟩) (by rintro ⟨⟩)]
    simp [afterPart, nestedBullets, listedOmission]
  | .code span pieces, before, text, below, run, blocks, omissions, rest => by
    rw [pending_leftOut rfl rfl rfl (by rintro ⟨⟩) (by rintro ⟨⟩)]
    simp [afterPart, nestedBullets, listedOmission]
  | .html span pieces, before, text, below, run, blocks, omissions, rest => by
    rw [pending_leftOut rfl rfl rfl (by rintro ⟨⟩) (by rintro ⟨⟩)]
    simp [afterPart, nestedBullets, listedOmission]
  | .table span head rows, before, text, below, run, blocks, omissions, rest => by
    rw [pending_leftOut rfl rfl rfl (by rintro ⟨⟩) (by rintro ⟨⟩)]
    simp [afterPart, nestedBullets, listedOmission]
  | .quote span parts, before, text, below, run, blocks, omissions, rest => by
    rw [pending_leftOut rfl rfl rfl (by rintro ⟨⟩) (by rintro ⟨⟩)]
    simp [afterPart, nestedBullets, listedOmission]
  | .list span (some start) items, before, text, below, run, blocks, omissions, rest => by
    rw [pending_leftOut rfl rfl rfl (by rintro ⟨⟩) (by rintro ⟨⟩)]
    simp [afterPart, nestedBullets, listedOmission]

/-- An item is read to its bullets. -/
theorem listedAs_item : ∀ i : Item (List Inline),
    ListedAs file i.events (itemBullets i) (listedItemOmission file i)
  | .mk span parts => by
    have htext : (runs [] parts).foldl joinRun [] = itemText parts := foldl_joinRun _ []
    intro below blocks omissions rest
    rw [Item.events, around_append, bullets, bullets_pending, pending_parts parts, Tag.finish,
      pending_stop rfl, bullets_finish_item, joinRun_afterParts, htext, itemBullets,
      listedItemOmission, List.nil_append]

theorem pending_parts : ∀ (ps : List (Markdown.Part (List Inline))) (before : List Block)
    (text : Text) (below : List Open) (run : Text) (blocks : List Block) (omissions : List Omission)
    (rest : List Located),
    pending file before text below run blocks omissions (partEvents ps ++ rest)
      = pending file before (ps.foldl afterPart (text, run)).1 below
          (ps.foldl afterPart (text, run)).2
          (blocks ++ partsBullets ps) (omissions ++ listedOmissions file ps) rest
  | [], before, text, below, run, blocks, omissions, rest => by
    rw [partEvents, partsBullets, listedOmissions, List.append_nil, List.append_nil]
    rfl
  | p :: ps, before, text, below, run, blocks, omissions, rest => by
    rw [partEvents, List.append_assoc, pending_part p, pending_parts ps, List.append_assoc,
      List.append_assoc, partsBullets, listedOmissions]
    rfl

/-- A list is read to the bullets of its items. -/
theorem listedAs_items : ∀ is : List (Item (List Inline)),
    ListedAs file (itemEvents is) (itemsBullets is) (listedItemOmissions file is)
  | [] => by
    rw [itemEvents, itemsBullets, listedItemOmissions]
    exact .nil
  | i :: is => by
    rw [itemEvents, itemsBullets, listedItemOmissions]
    exact .append (listedAs_item i) (listedAs_items is)

end

/-- The list in an item ends the run before it, and its bullets come after the whole item. -/
example :
    itemsBullets
        [.mk ⟨0, 20⟩
          [.plain [.leaf ⟨2, 3⟩ (.text "a".toList)],
            .list ⟨6, 12⟩ none [.mk ⟨6, 12⟩ [.plain [.leaf ⟨8, 9⟩ (.text "b".toList)]]],
            .paragraph ⟨14, 15⟩ [.leaf ⟨14, 15⟩ (.text "c".toList)]]]
      = [.bullet "a c".toList, .bullet "b".toList] := rfl

end Scenarist.Reading
