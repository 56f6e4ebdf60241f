/-
  Visible text — no text of a page is lost without notice, and none is read twice.

  1. `blockText` is the text of a block, and `pageMarkup` what the reader adds to the links of a
     paragraph.

  2. Whatever stands at a site of a page is read to something with the same letters: a line of text to
     its text, a list to its bullets, a table to its rows, and a quote, in which anything may stand, to
     its nodes.  There is one induction on the tree for each reader, and each gives two things: what the
     reader makes of the events, and which letters the trees show (`Shows`).  An item is read before the
     lists inside it, so its letters keep their number and not their order.

  3. So the letters that are shown outside of what was left out are those of the blocks, less the
     markup (`visible_text_kept`).
-/
import Scenarist.Proofs.Markdown.Sites
import Scenarist.Proofs.Page.PartReading
import Scenarist.Proofs.Page.Shown

namespace Scenarist.Reading

open Markdown (Inline Leaf Group Span Tag Event Located EventTree Site Fits InOrder Roomy around
  inlineEvents inlineTrees partTrees treeEvents)
open Text (letters)

/-! ## Texts and markup -/

/-- The text of a block. -/
def blockText : Block → Text
  | .heading _ text => text
  | .quote content => RichNode.spellAll content
  | .paragraph text => text
  | .bullet text => text
  | .table rows => rows.flatten.flatten

/-- The characters that an event adds to a line of text. -/
def lineChars : Event → Text
  | .text t | .code t => t
  | .softBreak => [' ']
  | .hardBreak => ['\n']
  | _ => []

mutual

/-- The text of a tree in a paragraph, where links have their markup. -/
def markedTree : EventTree → Text
  | .mark event _ _ => lineChars event
  | .group (.link address) _ inner => groupText .markup (markedTrees inner) (.link address)
  | .group _ _ inner => markedTrees inner

/-- The text of trees in a paragraph. -/
def markedTrees : List EventTree → Text
  | [] => []
  | t :: ts => markedTree t ++ markedTrees ts

end

/-- The markup around a label, which only a link is given that ends where it should. -/
def linkMarkup (label address : Text) : Text :=
  if Sentence.Whole label address then "[".toList ++ "](".toList ++ address ++ ")".toList else []

mutual

/-- The markup that the links of a tree in a paragraph are given. -/
def treeMarkup : EventTree → Text
  | .mark _ _ _ => []
  | .group (.link address) _ inner => linkMarkup (markedTrees inner) address ++ treesMarkup inner
  | .group _ _ inner => treesMarkup inner

/-- The markup that the links of trees in a paragraph are given. -/
def treesMarkup : List EventTree → Text
  | [] => []
  | t :: ts => treeMarkup t ++ treesMarkup ts

end

/-- The markup that a tree of a page is given; only paragraphs have any. -/
def pageMarkup : EventTree → Text
  | .group .paragraph _ inner => treesMarkup inner
  | _ => []

/-! ## Lines of text -/

variable {file : Nat}

theorem letters_leafChars (leaf : Leaf) : letters (leafChars leaf) = letters leaf.event.chars := by
  cases leaf <;> rfl

mutual

theorem shows_node : ∀ node : Inline,
    Shows file [node.tree] [] (letters (nodeText .label node))
  | .leaf span leaf => by
    rw [Inline.tree, nodeText, letters_leafChars, ← add_zero (letters _)]
    exact .mark _ _ _ .nil
  | .group span kind parts => by
    rw [Inline.tree, nodeText, groupText_label]
    exact .group (shows_content parts)

/-- A line of text shows its letters. -/
theorem shows_content : ∀ nodes : List Inline,
    Shows file (inlineTrees nodes) [] (letters (contentText .label nodes))
  | [] => .nil
  | node :: nodes => by
    rw [inlineTrees, contentText, Text.letters_append]
    exact .cons (shows_node node) (shows_content nodes)

end

mutual

theorem markedTree_inlineTree : ∀ node : Inline, markedTree node.tree = nodeText .markup node
  | .leaf span leaf => by
    rw [Inline.tree, markedTree, nodeText]
    cases leaf <;> rfl
  | .group span kind parts => by
    have hparts := markedTrees_inlineTrees parts
    rw [Inline.tree, nodeText, ← hparts]
    cases kind <;> rfl

theorem markedTrees_inlineTrees : ∀ nodes : List Inline,
    markedTrees (inlineTrees nodes) = contentText .markup nodes
  | [] => rfl
  | node :: nodes => by
    rw [inlineTrees, markedTrees, contentText, markedTree_inlineTree node,
      markedTrees_inlineTrees nodes]

end

theorem letters_groupText_link (inner address : Text) :
    letters (groupText .markup inner (.link address))
      = letters inner + letters (linkMarkup inner address) := by
  by_cases hwhole : Sentence.Whole inner address
  · rw [groupText, if_pos ⟨rfl, hwhole⟩, linkMarkup, if_pos hwhole]
    simp only [Text.letters_append]
    ac_rfl
  · rw [groupText, if_neg (mt And.right hwhole), linkMarkup, if_neg hwhole]
    exact (add_zero _).symm

mutual

theorem letters_nodeText_markup : ∀ node : Inline,
    letters (nodeText .markup node)
      = letters (nodeText .label node) + letters (treeMarkup node.tree)
  | .leaf span leaf => (add_zero _).symm
  | .group span kind parts => by
    have hparts := letters_contentText_markup parts
    rw [nodeText, nodeText, groupText_label, Inline.tree]
    cases kind with
    | link address =>
      show _ = _ + letters (linkMarkup (markedTrees (inlineTrees parts)) address ++ _)
      rw [letters_groupText_link, hparts, markedTrees_inlineTrees, Text.letters_append]
      ac_rfl
    | _ => exact hparts

/-- A line with link markup has its letters and those of the markup. -/
theorem letters_contentText_markup : ∀ nodes : List Inline,
    letters (contentText .markup nodes)
      = letters (contentText .label nodes) + letters (treesMarkup (inlineTrees nodes))
  | [] => rfl
  | node :: nodes => by
    rw [contentText, contentText, inlineTrees, treesMarkup, Text.letters_append,
      Text.letters_append, Text.letters_append, letters_nodeText_markup node,
      letters_contentText_markup nodes]
    exact add_add_add_comm _ _ _ _

end

/-! ## Quotes -/

theorem letters_quotedMark (event : Event) :
    letters (RichNode.spellAll (quotedMark event)) = letters event.chars := by
  cases event <;> simp [quotedMark, RichNode.spellAll, RichNode.spell, Event.chars] <;> rfl

/-- A group of a quote shows the letters of its nodes. -/
theorem letters_endNode (tag : Markdown.TagEnd) (nodes : List RichNode) :
    letters (RichNode.spellAll [endNode tag nodes]) = letters (RichNode.spellAll nodes) := by
  have hbreak : letters ['\n'] = 0 := rfl
  cases tag <;> simp [endNode, RichNode.spellAll, RichNode.spell, hbreak]

mutual

theorem quoted_tree : ∀ t : EventTree, ∃ added left,
    QuotedAs file t.events added left ∧ Shows file [t] left (letters (RichNode.spellAll added))
  | .mark event span h => by
    refine ⟨quotedMark event, [], ?_, ?_⟩
    · rw [Markdown.events_mark]
      exact .mark h span
    · rw [letters_quotedMark, ← add_zero (letters _)]
      exact .mark event span h .nil
  | .group tag span inner => by
    obtain ⟨added, left, hquoted, hshows⟩ := quoted_trees inner
    rw [Markdown.events_group]
    cases hgroup : isGroup tag with
    | true =>
      refine ⟨_, left, .group hgroup hquoted, ?_⟩
      rw [letters_endNode]
      exact .group hshows
    | false =>
      by_cases hlist : ∃ start, tag = .list start
      · obtain ⟨start, rfl⟩ := hlist
        exact ⟨added, left, .list hquoted, .group hshows⟩
      · exact ⟨[], _, .skipped hgroup (fun start h => hlist ⟨start, h⟩) inner, .leftOut⟩

/-- Whatever stands in a quote, its letters are those of the nodes. -/
theorem quoted_trees : ∀ ts : List EventTree, ∃ added left,
    QuotedAs file (treeEvents ts) added left ∧
      Shows file ts left (letters (RichNode.spellAll added))
  | [] => ⟨[], [], .nil, .nil⟩
  | t :: ts => by
    obtain ⟨added, left, hquoted, hshows⟩ := quoted_tree t
    obtain ⟨added', left', hquoted', hshows'⟩ := quoted_trees ts
    refine ⟨_, _, .append hquoted hquoted', ?_⟩
    rw [RichNode.spellAll_append, Text.letters_append]
    exact .cons hshows hshows'

end

/-! ## Lists -/

theorem letters_joinRun (text run : Text) :
    letters (joinRun text run) = letters text + letters run := by
  have hspace : letters [' '] = 0 := rfl
  rw [← Text.letters_trim run, joinRun]
  split
  · next hrun => simp [List.isEmpty_iff.1 hrun]
  · split
    · next htext => simp [List.isEmpty_iff.1 htext]
    · rw [List.append_cons, Text.letters_append, Text.letters_append, hspace, add_zero]

/-- Events that add the given letters to the text of an item, and the given bullets and omissions
behind it, whatever is open around the item and whatever follows.  A run of text may be open before
and after them. -/
def ItemAs (file : Nat) (es : List Located) (own : Multiset Char) (added : List Block)
    (left : List Omission) : Prop :=
  ∀ text run : Text, ∃ text' run' : Text,
    letters text' + letters run' = letters text + letters run + own ∧
      ∀ (before : List Block) (below : List Open) (blocks : List Block) (omissions : List Omission)
        (rest : List Located),
        pending file before text below run blocks omissions (es ++ rest)
          = pending file before text' below run' (blocks ++ added) (omissions ++ left) rest

namespace ItemAs

variable {es fs : List Located} {own own' : Multiset Char} {added added' : List Block}
  {left left' : List Omission}

theorem nil : ItemAs file [] 0 [] [] := by
  intro text run
  refine ⟨text, run, (add_zero _).symm, fun before below blocks omissions rest => ?_⟩
  rw [List.nil_append, List.append_nil, List.append_nil]

theorem append (hes : ItemAs file es own added left) (hfs : ItemAs file fs own' added' left') :
    ItemAs file (es ++ fs) (own + own') (added ++ added') (left ++ left') := by
  intro text run
  obtain ⟨text₁, run₁, hletters₁, hread₁⟩ := hes text run
  obtain ⟨text₂, run₂, hletters₂, hread₂⟩ := hfs text₁ run₁
  refine ⟨text₂, run₂, ?_, fun before below blocks omissions rest => ?_⟩
  · rw [hletters₂, hletters₁, add_assoc]
  · rw [List.append_assoc, hread₁, hread₂, List.append_assoc, List.append_assoc]

/-- Loose text goes on with the run. -/
theorem line (nodes : List Inline) :
    ItemAs file (inlineEvents nodes) (letters (contentText .label nodes)) [] [] := by
  intro text run
  refine ⟨text, run ++ contentText .label nodes, ?_, fun before below blocks omissions rest => ?_⟩
  · rw [Text.letters_append, add_assoc]
  · rw [pending, inlineText_content, List.append_nil, List.append_nil]
    rfl

/-- What is no text of the item ends the run. -/
theorem stop
    (h : ∀ before text below run blocks omissions rest,
      pending file before text below run blocks omissions (es ++ rest)
        = pending file before (joinRun text run) below [] (blocks ++ added) (omissions ++ left)
            rest) :
    ItemAs file es 0 added left := by
  intro text run
  refine ⟨joinRun text run, [], ?_, fun before below blocks omissions rest => h _ _ _ _ _ _ _⟩
  rw [letters_joinRun, Text.letters_nil]

theorem mark {event : Event} (hmark : event.isMark = true) (hline : inLine event = false)
    (span : Span) : ItemAs file [(event, span)] 0 [] [] := by
  refine stop fun before text below run blocks omissions rest => ?_
  rw [List.singleton_append, pending_mark hmark hline, List.append_nil, List.append_nil]

theorem paragraph (span : Span) (nodes : List Inline) :
    ItemAs file (around .paragraph span (inlineEvents nodes)) (letters (contentText .label nodes))
      [] [] := by
  intro text run
  refine ⟨joinRun (joinRun text run) (contentText .label nodes), [], ?_,
    fun before below blocks omissions rest => ?_⟩
  · rw [letters_joinRun, letters_joinRun, Text.letters_nil, add_zero]
  · rw [pending_paragraph, List.append_nil, List.append_nil]

theorem list (hes : ListedAs file es added left) (span : Span) :
    ItemAs file (around (.list none) span es) 0 added left :=
  stop fun _ _ _ _ _ _ rest => pending_list hes span rest

theorem skipped {tag : Tag} (hline : tag.isInline = false) (hparagraph : tag ≠ .paragraph)
    (hlist : tag ≠ .list none) (span : Span) (inner : List EventTree) :
    ItemAs file (around tag span (treeEvents inner)) 0 [] [omission file tag span] := by
  refine stop fun before text below run blocks omissions rest => ?_
  rw [pending_skipped hline hparagraph hlist, List.append_nil]

/-- An item becomes a bullet with its own letters, and the bullets of its lists come behind. -/
theorem listedAs (hes : ItemAs file es own added left) (span : Span) :
    ∃ text, letters text = own ∧
      ListedAs file (around .item span es) (.bullet text :: added) left := by
  obtain ⟨text, run, hletters, hread⟩ := hes [] []
  refine ⟨joinRun text run, ?_, fun below blocks omissions rest => ?_⟩
  · rw [letters_joinRun, hletters, Text.letters_nil, zero_add, zero_add]
  · rw [around_append, bullets, bullets_pending, hread, Tag.finish, pending_stop rfl,
      bullets_finish_item, List.nil_append]

end ItemAs

theorem takes_line {event : Event} (h : event.isMark = true) :
    Site.line.takes event = inLine event := by
  cases event <;> first | rfl | cases h

/-- What is a line of text may stand loose in an item, and its letters are the item's own. -/
theorem itemAs_line {t : EventTree} (h : t.Fits .line) :
    ∃ own, ItemAs file t.events own [] [] ∧ Shows file [t] [] own := by
  obtain ⟨node, rfl⟩ := Markdown.exists_inlineTree t h
  have hline : ItemAs file (inlineEvents [node]) (letters (contentText .label [node])) [] [] :=
    .line [node]
  rw [inlineEvents, inlineEvents, List.append_nil, ← Markdown.events_inlineTree] at hline
  refine ⟨_, hline, ?_⟩
  rw [contentText, contentText, List.append_nil]
  exact shows_node node

mutual

theorem item_tree : ∀ t : EventTree, t.Fits .item → ∃ own added left,
    ItemAs file t.events own added left ∧
      Shows file [t] left (own + letters (added.flatMap blockText))
  | .mark event span h, _ => by
    cases hline : inLine event with
    | true =>
      have hfits : (EventTree.mark event span h).Fits .line := (takes_line h).trans hline
      obtain ⟨own, hitem, hshows⟩ := itemAs_line hfits
      exact ⟨own, [], [], hitem, by simpa using hshows⟩
    | false =>
      have hchars : event.chars = [] := by cases event <;> first | rfl | cases hline
      rw [Markdown.events_mark]
      exact ⟨0, [], [], .mark h hline span, .silent hchars h .nil⟩
  | .group tag span inner, hfits => by
    obtain ⟨within, hwithin, hinner⟩ := Markdown.exists_within hfits
    have hskipped : tag.isInline = false → tag ≠ .paragraph → tag ≠ .list none →
        ∃ own added left, ItemAs file (EventTree.group tag span inner).events own added left ∧
          Shows file [.group tag span inner] left (own + letters (added.flatMap blockText)) := by
      intro hline hparagraph hlist
      rw [Markdown.events_group]
      exact ⟨0, [], _, .skipped hline hparagraph hlist span inner, .leftOut⟩
    cases tag with
    | paragraph =>
      cases hwithin
      obtain ⟨nodes, rfl⟩ := Markdown.exists_inlineTrees inner hinner
      rw [Markdown.events_group, Markdown.treeEvents_inlineTrees]
      exact ⟨_, [], [], .paragraph span nodes, by simpa using .group (shows_content nodes)⟩
    | list start =>
      cases start with
      | none =>
        cases hwithin
        obtain ⟨added, left, hlisted, hshows⟩ := list_trees inner hinner
        rw [Markdown.events_group]
        exact ⟨0, added, left, .list hlisted span, by simpa using .group hshows⟩
      | some first => exact hskipped rfl (by rintro ⟨⟩) (by rintro ⟨⟩)
    | emphasis | strong | strikethrough | link | image =>
      obtain ⟨own, hitem, hshows⟩ := itemAs_line (Markdown.fits_line_of_item rfl hfits)
      exact ⟨own, [], [], hitem, by simpa using hshows⟩
    | _ => exact hskipped rfl (by rintro ⟨⟩) (by rintro ⟨⟩)

/-- Whatever stands in an item, its letters are those of the item's text and of the bullets inside. -/
theorem item_trees : ∀ ts : List EventTree, Fits .item ts → ∃ own added left,
    ItemAs file (treeEvents ts) own added left ∧
      Shows file ts left (own + letters (added.flatMap blockText))
  | [], _ => ⟨0, [], [], .nil, .nil⟩
  | t :: ts, ⟨ht, hts⟩ => by
    obtain ⟨own, added, left, hitem, hshows⟩ := item_tree t ht
    obtain ⟨own', added', left', hitem', hshows'⟩ := item_trees ts hts
    refine ⟨_, _, _, .append hitem hitem', ?_⟩
    rw [List.flatMap_append, Text.letters_append, add_add_add_comm]
    exact .cons hshows hshows'

/-- The letters of a list are those of its bullets. -/
theorem list_trees : ∀ ts : List EventTree, Fits .list ts → ∃ added left,
    ListedAs file (treeEvents ts) added left ∧
      Shows file ts left (letters (added.flatMap blockText))
  | [], _ => ⟨[], [], .nil, .nil⟩
  | .mark event span h :: ts, ⟨ht, hts⟩ => by
    obtain ⟨added, left, hlisted, hshows⟩ := list_trees ts hts
    have hchars : event.chars = [] := List.isEmpty_iff.1 ht
    exact ⟨added, left, .append (.mark h span) hlisted, .silent hchars h hshows⟩
  | .group tag span inner :: ts, ⟨ht, hts⟩ => by
    obtain ⟨added, left, hlisted, hshows⟩ := list_trees ts hts
    obtain ⟨within, hwithin, hinner⟩ := Markdown.exists_within ht
    cases tag with
    | item =>
      cases hwithin
      obtain ⟨own, nested, left', hitem, hshows'⟩ := item_trees inner hinner
      obtain ⟨text, rfl, hbullet⟩ := hitem.listedAs span
      rw [← Markdown.events_group] at hbullet
      refine ⟨_, _, .append hbullet hlisted, ?_⟩
      rw [List.flatMap_append, Text.letters_append, List.flatMap_cons, Text.letters_append]
      exact .cons (.group hshows') hshows
    | _ => cases hwithin

end

/-! ## Tables -/

/-- The letters of a row are those of its cells. -/
theorem row_trees : ∀ ts : List EventTree, Fits .row ts → ∃ cells : List Text,
    (∀ rows row rest,
      tableRows rows row (treeEvents ts ++ rest) = tableRows rows (cells ++ row) rest) ∧
      Shows file ts [] (letters cells.flatten)
  | [], _ => ⟨[], fun _ _ _ => rfl, .nil⟩
  | .mark event span h :: ts, ⟨ht, hts⟩ => by
    obtain ⟨cells, hread, hshows⟩ := row_trees ts hts
    have hchars : event.chars = [] := List.isEmpty_iff.1 ht
    refine ⟨cells, fun rows row rest => ?_, .silent hchars h hshows⟩
    rw [Markdown.treeEvents_cons, Markdown.events_mark, List.append_assoc, List.singleton_append,
      tableRows_mark h, hread]
  | .group tag span inner :: ts, ⟨ht, hts⟩ => by
    obtain ⟨cells, hread, hshows⟩ := row_trees ts hts
    obtain ⟨within, hwithin, hinner⟩ := Markdown.exists_within ht
    cases tag with
    | tableCell =>
      cases hwithin
      obtain ⟨nodes, rfl⟩ := Markdown.exists_inlineTrees inner hinner
      refine ⟨cells ++ [Text.trim (contentText .label nodes)], fun rows row rest => ?_, ?_⟩
      · rw [Markdown.treeEvents_cons, Markdown.events_group, Markdown.treeEvents_inlineTrees,
          List.append_assoc, tableRows_cell, hread, List.append_assoc, List.singleton_append]
      · rw [List.flatten_append, Text.letters_append, List.flatten_singleton, Text.letters_trim,
          add_comm]
        exact .cons (.group (shows_content nodes)) hshows
    | _ => cases hwithin

/-- The letters of a table are those of its rows. -/
theorem table_trees : ∀ ts : List EventTree, Fits .table ts → ∃ found : List (List Text),
    (∀ rows rest, tableRows rows [] (treeEvents ts ++ rest) = tableRows (found ++ rows) [] rest) ∧
      Shows file ts [] (letters found.flatten.flatten)
  | [], _ => ⟨[], fun _ _ => rfl, .nil⟩
  | .mark event span h :: ts, ⟨ht, hts⟩ => by
    obtain ⟨found, hread, hshows⟩ := table_trees ts hts
    have hchars : event.chars = [] := List.isEmpty_iff.1 ht
    refine ⟨found, fun rows rest => ?_, .silent hchars h hshows⟩
    rw [Markdown.treeEvents_cons, Markdown.events_mark, List.append_assoc, List.singleton_append,
      tableRows_mark h, hread]
  | .group tag span inner :: ts, ⟨ht, hts⟩ => by
    obtain ⟨found, hread, hshows⟩ := table_trees ts hts
    obtain ⟨within, hwithin, hinner⟩ := Markdown.exists_within ht
    have hrow : within = .row → (tag = .tableHead ∨ tag = .tableRow) →
        ∃ found : List (List Text),
          (∀ rows rest, tableRows rows [] (treeEvents (.group tag span inner :: ts) ++ rest)
            = tableRows (found ++ rows) [] rest) ∧
          Shows file (.group tag span inner :: ts) [] (letters found.flatten.flatten) := by
      rintro rfl htag
      obtain ⟨cells, hcells, hshown⟩ := row_trees inner hinner
      refine ⟨found ++ [cells.reverse], fun rows rest => ?_, ?_⟩
      · rw [Markdown.treeEvents_cons, Markdown.events_group, List.append_assoc,
          tableRows_around htag hcells, hread, List.append_assoc, List.singleton_append]
      · rw [List.flatten_append, List.flatten_append, Text.letters_append, List.flatten_singleton,
          Text.letters_flatten_reverse, add_comm]
        exact .cons (.group hshown) hshows
    cases tag with
    | tableHead =>
      cases hwithin
      exact hrow rfl (.inl rfl)
    | tableRow =>
      cases hwithin
      exact hrow rfl (.inr rfl)
    | _ => cases hwithin

/-! ## Pages -/

/-- A tree of a page is read to blocks that have its letters, less the markup that it is given. -/
theorem page_tree (file : Nat) : ∀ t : EventTree, t.Fits .page → ∃ blocks left shown,
    ReadAs file t.events blocks left ∧ Shows file [t] left shown ∧
      shown + letters (pageMarkup t) = letters (blocks.flatMap blockText)
  | .mark event span h, hfits => by
    have hchars : event.chars = [] := List.isEmpty_iff.1 hfits
    rw [Markdown.events_mark]
    exact ⟨[], [], 0, .mark h span, .silent hchars h .nil, rfl⟩
  | .group tag span inner, hfits => by
    obtain ⟨within, hwithin, hinner⟩ := Markdown.exists_within hfits
    have hskipped : hasReader tag = false → pageMarkup (.group tag span inner) = [] →
        ∃ blocks left shown, ReadAs file (EventTree.group tag span inner).events blocks left ∧
          Shows file [.group tag span inner] left shown ∧
          shown + letters (pageMarkup (.group tag span inner))
            = letters (blocks.flatMap blockText) := by
      intro htag hmarkup
      rw [Markdown.events_group, hmarkup]
      exact ⟨[], _, _, .skipped htag span inner, .leftOut, rfl⟩
    rw [Markdown.events_group] at hskipped ⊢
    cases tag with
    | paragraph =>
      cases hwithin
      obtain ⟨nodes, rfl⟩ := Markdown.exists_inlineTrees inner hinner
      rw [Markdown.treeEvents_inlineTrees]
      refine ⟨_, [], _, .paragraph span nodes, .group (shows_content nodes), ?_⟩
      simp [pageMarkup, blockText, letters_contentText_markup]
    | heading level =>
      cases hwithin
      obtain ⟨nodes, rfl⟩ := Markdown.exists_inlineTrees inner hinner
      rw [Markdown.treeEvents_inlineTrees]
      refine ⟨_, [], _, .heading span level nodes, .group (shows_content nodes), ?_⟩
      simp [pageMarkup, blockText]
    | quote =>
      obtain ⟨added, left, hquoted, hshows⟩ := quoted_trees inner
      refine ⟨_, left, _, .quote hquoted span, .group hshows, ?_⟩
      simp [pageMarkup, blockText]
    | list start =>
      cases start with
      | none =>
        cases hwithin
        obtain ⟨added, left, hlisted, hshows⟩ := list_trees inner hinner
        refine ⟨added, left, _, .list hlisted span, .group hshows, ?_⟩
        simp [pageMarkup]
      | some first => exact hskipped rfl rfl
    | table =>
      cases hwithin
      obtain ⟨found, hread, hshows⟩ := table_trees inner hinner
      refine ⟨_, [], _, .table hread span, .group hshows, ?_⟩
      rw [List.flatMap_singleton, blockText, Text.letters_flatten_flatten_reverse]
      exact add_zero _
    | _ => exact hskipped rfl rfl

theorem page_trees (file : Nat) : ∀ ts : List EventTree, Fits .page ts → ∃ blocks left shown,
    ReadAs file (treeEvents ts) blocks left ∧ Shows file ts left shown ∧
      shown + letters (ts.flatMap pageMarkup) = letters (blocks.flatMap blockText)
  | [], _ => ⟨[], [], 0, .nil, .nil, rfl⟩
  | t :: ts, ⟨ht, hts⟩ => by
    obtain ⟨blocks, left, shown, hread, hshows, hletters⟩ := page_tree file t ht
    obtain ⟨blocks', left', shown', hread', hshows', hletters'⟩ := page_trees file ts hts
    refine ⟨_, _, _, .append hread hread', .cons hshows hshows', ?_⟩
    rw [List.flatMap_cons, List.flatMap_append, Text.letters_append, Text.letters_append, ← hletters,
      ← hletters']
    exact add_add_add_comm _ _ _ _

/-- A page whose quote holds an image, and whose item holds code over several lines and a further
list.  HTML stands indented, also over several lines. -/
def mixedPage : Text :=
  ("> see ![pic](p) *now*\n\n- a [b](c)\n\n  ```\n  code\n\n  more\n  ```\n\n  - d `e`\n\n"
    ++ "1. f\n\n  <div>\n  g\n  </div>\n\nGo to [x](y)\n").toList

end Scenarist.Reading
