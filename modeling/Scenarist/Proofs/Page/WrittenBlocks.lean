/-
  Written blocks — how the layout of a page goes on from one written block to the next.

  1. **What parts tell.**  Parts tell blocks if they are read to them with nothing left out
     (`Tells`).  An item with one paragraph tells one bullet, whether its list is tight or loose.

  2. **Between blocks.**  After a block and the empty line behind it, either nothing is open, or the
     item of the last bullet is (`Between`).  The next line leaves that item, but a further bullet
     goes on with its list, which is loose from then on (`ready_closeFrames`, `openItem_ready`).

  3. **Steps.**  A heading, a paragraph, a table and a bullet each lead from one such state to the
     next, one block further (`step_leaf`, `step_bullet`).
-/
import Scenarist.Proofs.Markdown.Document
import Scenarist.Proofs.Markdown.Leaves
import Scenarist.Proofs.Page.PlainText

namespace Scenarist.Reading

open Markdown (Glyph Passage Item Row Line Cursor Layout Frame OpenList dash chars
  mapParts mapItems)

variable {ps qs : List (Markdown.Part Passage)} {p : Markdown.Part Passage} {b : Block}
  {bs cs : List Block} {t : Text} {ts : List Text} {items : List (Item Passage)}

/-! ## What parts tell -/

/-- The parts are read to these blocks, and nothing of them is left out. -/
structure Tells (ps : List (Markdown.Part Passage)) (bs : List Block) : Prop where
  /-- What the parts are read to. -/
  blocks : (mapParts (Passage.read []) ps).flatMap partBlocks = bs
  /-- Nothing is left out. -/
  complete : ∀ file, (mapParts (Passage.read []) ps).flatMap (partOmissions file) = []

theorem tells_nil : Tells [] [] where
  blocks := by rw [mapParts, List.flatMap_nil]
  complete := fun file => by rw [mapParts, List.flatMap_nil]

theorem Tells.append (hp : Tells ps bs) (hq : Tells qs cs) : Tells (ps ++ qs) (bs ++ cs) where
  blocks := by
    rw [Markdown.mapParts_eq_map, List.map_append, List.flatMap_append,
      ← Markdown.mapParts_eq_map, ← Markdown.mapParts_eq_map, hp.blocks, hq.blocks]
  complete := fun file => by
    rw [Markdown.mapParts_eq_map, List.map_append, List.flatMap_append,
      ← Markdown.mapParts_eq_map, ← Markdown.mapParts_eq_map, hp.complete, hq.complete]
    rfl

theorem tells_part (hblocks : partBlocks (p.map (Passage.read [])) = bs)
    (hcomplete : ∀ file, partOmissions file (p.map (Passage.read [])) = []) : Tells [p] bs where
  blocks := by simpa [mapParts] using hblocks
  complete := fun file => by simpa [mapParts] using hcomplete file

/-! ## Headings, paragraphs and tables -/

variable {gs : List Glyph} {cells : List Text} {line : Line}

theorem contentText_exact {style : LinkStyle} (ht : Text.IsWords t) (hgs : chars gs = t)
    (inTable : Bool) : contentText style (Passage.read [] ⟨gs, inTable⟩) = t :=
  contentText_words (b := []) ht (fun c hc => absurd hc List.not_mem_nil)
    (by rw [hgs, List.append_nil]) [] inTable

theorem tells_heading (span : Markdown.Span) (ht : Text.IsWords t) (level : Nat) (hgs : chars gs = t) :
    Tells [.heading span level ⟨gs, false⟩] [.heading level t] := by
  refine tells_part ?_ fun file => by rw [Markdown.Part.map, partOmissions]
  rw [Markdown.Part.map, partBlocks, contentText_exact ht hgs]

theorem tells_paragraph (span : Markdown.Span) (ht : Text.IsWords t) (hgs : chars gs = t) :
    Tells [.paragraph span ⟨gs, false⟩] [.paragraph t] := by
  refine tells_part ?_ fun file => by rw [Markdown.Part.map, partOmissions]
  rw [Markdown.Part.map, partBlocks, contentText_exact ht hgs]

/-- A cell is read to its words, without the space behind them. -/
theorem cellTexts_read {ws : List (List Glyph)} (span : List Glyph → Markdown.Span)
    (hcells : ∀ c ∈ cells, Text.IsWords c)
    (h : List.Forall₂ (fun w c => chars w = c ++ [' ']) ws cells) :
    (ws.map fun w => cellText ⟨span w, Passage.read [] ⟨w, true⟩⟩) = cells := by
  induction h with
  | nil => rfl
  | cons hw h ih =>
    next w c ws cells =>
    have hc := hcells c (List.mem_cons_self ..)
    have hspace : ∀ d ∈ [' '], d = ' ' := fun d hd => List.mem_singleton.1 hd
    rw [List.map_cons, ih fun d hd => hcells d (List.mem_cons_of_mem c hd), cellText,
      contentText_words hc hspace hw, hc.trim_eq]

theorem rowTexts_rowOf (hcells : ∀ c ∈ cells, Text.IsWords c)
    (hgs : chars gs = Markdown.pipeRow cells) :
    rowTexts ((Markdown.rowOf cells.length line gs).map (Passage.read [])) = cells := by
  have hread := Markdown.cells_pipeRow hcells hgs
  have hlength : (Markdown.rowCells gs).length = cells.length := hread.length_eq
  have htexts := cellTexts_read (Markdown.spanOf line.stop) hcells hread
  rw [rowTexts, Row.map, Markdown.rowOf]
  dsimp only
  rw [← hlength, List.take_length, Nat.sub_self, List.replicate_zero, List.append_nil,
    List.map_map, List.map_map]
  exact htexts

theorem tells_table (span : Markdown.Span) (line : Line) {head : List Text}
    {body : List (List Text)} {ls : List Line} (hhead : ∀ c ∈ head, Text.IsWords c) (hline : chars gs = Markdown.pipeRow head)
    (hbody : List.Forall₂ (fun line row => line.text = Markdown.pipeRow row) ls body)
    (hrows : ∀ row ∈ body, row.length = head.length ∧ ∀ c ∈ row, Text.IsWords c) :
    Tells [.table span (Markdown.rowOf head.length line gs)
        (ls.map fun line => Markdown.rowOf head.length line line.glyphs)]
      [.table (head :: body)] := by
  have hbelow : (ls.map fun line =>
      rowTexts ((Markdown.rowOf head.length line line.glyphs).map (Passage.read []))) = body := by
    induction hbody with
    | nil => rfl
    | cons hrow hbody ih =>
      next l row ls body =>
      obtain ⟨hlength, hcells⟩ := hrows row (List.mem_cons_self ..)
      rw [List.map_cons, ih fun r hr => hrows r (List.mem_cons_of_mem row hr), ← hlength,
        rowTexts_rowOf hcells hrow]
  refine tells_part ?_ fun file => by rw [Markdown.Part.map, partOmissions]
  rw [Markdown.Part.map, partBlocks, rowTexts_rowOf hhead hline, List.map_map, List.map_map]
  exact congrArg (fun rows => [Block.table (head :: rows)]) hbelow

/-! ## Bullets -/

/-- The item of a bullet: one paragraph of words. -/
def IsBullet (i : Item Passage) (t : Text) : Prop :=
  Text.IsWords t ∧ ∃ outer inner gs, i = .mk outer [.paragraph inner ⟨gs, false⟩] ∧ chars gs = t

/-- An item that is read to one bullet, with nothing left out. -/
def Bulleted (i : Item Passage) (t : Text) : Prop :=
  itemBullets (i.map (Passage.read [])) = [.bullet t] ∧
    ∀ file, listedItemOmission file (i.map (Passage.read [])) = []

theorem bulleted_loose {i : Item Passage} (h : IsBullet i t) : Bulleted i t := by
  obtain ⟨ht, outer, inner, gs, rfl, hgs⟩ := h
  have hne : t.isEmpty = false := by simpa using ht.ne_nil
  have htext : itemText [.paragraph inner (Passage.read [] ⟨gs, false⟩)] = t := by
    have hblank : Text.trim [] = [] := rfl
    simp [itemText, runs, joined, contentText_exact ht hgs, ht.trim_eq, hblank, hne]
  constructor
  · simp [Item.map, mapParts, Markdown.Part.map, itemBullets, htext, partsBullets, nestedBullets]
  · intro file
    simp [Item.map, mapParts, Markdown.Part.map, listedItemOmission, listedOmissions, listedOmission]

theorem bulleted_tight {i : Item Passage} (h : IsBullet i t) : Bulleted i.tighten t := by
  obtain ⟨ht, outer, inner, gs, rfl, hgs⟩ := h
  have hne : t.isEmpty = false := by simpa using ht.ne_nil
  have htext : itemText [.plain (Passage.read [] ⟨gs, false⟩)] = t := by
    simp [itemText, runs, joined, contentText_exact ht hgs, ht.trim_eq, hne]
  constructor
  · simp [Item.tighten, Markdown.Part.tighten, Item.map, mapParts, Markdown.Part.map, itemBullets, htext,
      partsBullets, nestedBullets]
  · intro file
    simp [Item.tighten, Markdown.Part.tighten, Item.map, mapParts, Markdown.Part.map, listedItemOmission,
      listedOmissions, listedOmission, leftOut]

theorem items_bulleted (h : List.Forall₂ Bulleted items ts) :
    itemsBullets (mapItems (Passage.read []) items) = ts.map Block.bullet ∧
      ∀ file, listedItemOmissions file (mapItems (Passage.read []) items) = [] := by
  induction h with
  | nil =>
    constructor
    · rw [mapItems, itemsBullets, List.map_nil]
    · intro file
      rw [mapItems, listedItemOmissions]
  | cons hi h ih =>
    obtain ⟨hbullet, hnone⟩ := hi
    constructor
    · rw [mapItems, itemsBullets, hbullet, ih.1, List.map_cons, List.singleton_append]
    · intro file
      rw [mapItems, listedItemOmissions, hnone, ih.2, List.nil_append]

/-- A list of bullets, whose texts are given last first. -/
structure IsBullets (li : OpenList) (ts : List Text) : Prop where
  /-- Its mark is a dash. -/
  mark : li.mark = dash
  /-- Its items are bullets. -/
  items : List.Forall₂ IsBullet li.items ts

/-- A list of bullets tells them in order, whether it is tight or loose. -/
theorem tells_bullets {li : OpenList} (h : IsBullets li ts) (stop : Nat) :
    Tells [li.close stop] (ts.reverse.map Block.bullet) := by
  have hitems : List.Forall₂ Bulleted
      (if li.tight then li.items.map Item.tighten else li.items).reverse ts.reverse := by
    rw [List.forall₂_reverse_iff]
    split
    · rw [List.forall₂_map_left_iff]
      exact h.items.imp fun i t => bulleted_tight
    · exact h.items.imp fun i t => bulleted_loose
  obtain ⟨hblocks, hnone⟩ := items_bulleted hitems
  have hnumber : li.mark.number = none := by rw [h.mark]; rfl
  refine tells_part ?_ fun file => ?_
  · rw [OpenList.close, Markdown.Part.map, hnumber, partBlocks, hblocks]
  · rw [OpenList.close, Markdown.Part.map, hnumber, partOmissions, hnone]

/-! ## Between blocks -/

/-- After a block and the empty line behind it, when the page tells the given blocks. -/
inductive Between : Layout → List Block → Prop where
  /-- Nothing is open. -/
  | outside {done : List (Markdown.Part Passage)} {bs : List Block} (blankBefore : Bool)
      (hdone : Tells done.reverse bs) : Between ⟨[], none, done, [], blankBefore, none⟩ bs
  /-- The item of the last bullet is open. -/
  | inItem {done : List (Markdown.Part Passage)} {bs : List Block} {li : OpenList}
      {ts : List Text} {start : Nat} {p : Markdown.Part Passage} {t : Text}
      (hdone : Tells done.reverse bs) (hlist : IsBullets li ts)
      (hitem : ∀ stop, IsBullet (.mk ⟨start, stop⟩ [p]) t) :
      Between ⟨[.item li start 2 [p]], none, done, [], true, none⟩
        (bs ++ (t :: ts).reverse.map Block.bullet)

/-- The same with the frames ended: the list may get further items. -/
inductive Ready : Layout → List Block → Prop where
  /-- No list came last. -/
  | outside {done : List (Markdown.Part Passage)} {bs : List Block} (blankBefore : Bool)
      (hdone : Tells done.reverse bs) : Ready ⟨[], none, done, [], blankBefore, none⟩ bs
  /-- A list came last. -/
  | idle {done : List (Markdown.Part Passage)} {bs : List Block} {li : OpenList} {ts : List Text}
      (hdone : Tells done.reverse bs) (hlist : IsBullets li ts) :
      Ready ⟨[], some li, done, [], true, none⟩ (bs ++ ts.reverse.map Block.bullet)

variable {l : Layout} {blank : Line} {rest more : List Line} {g : Glyph}

theorem tells_concat {done : List (Markdown.Part Passage)} (hdone : Tells done.reverse bs)
    (hp : Tells [p] cs) : Tells (p :: done).reverse (bs ++ cs) := by
  rw [List.reverse_cons]
  exact hdone.append hp

theorem ready_closeFrames (hl : Between l bs) (stop : Nat) :
    Ready (l.closeFrames stop l.frames.length) bs := by
  cases hl with
  | outside blankBefore hdone => exact .outside blankBefore hdone
  | inItem hdone hlist hitem =>
    exact .idle hdone ⟨hlist.mark, List.Forall₂.cons (hitem stop) hlist.items⟩

/-- A block that is no bullet ends the list before it. -/
theorem endList_ready (hl : Ready l bs) (stop : Nat) :
    ∃ done, l.endList stop = { done := done } ∧ Tells done.reverse bs := by
  cases hl with
  | @outside done _ blankBefore hdone =>
    refine ⟨done, ?_, hdone⟩
    cases blankBefore <;> rfl
  | @idle done bs li ts hdone hlist =>
    refine ⟨li.close stop :: done, ?_, tells_concat hdone (tells_bullets hlist stop)⟩
    cases hli : li.tight <;>
      simp [Layout.endList, Layout.settle, Layout.closeIdle, Layout.loosen, Layout.add, hli]

/-- A bullet goes on with the list before it, or starts one. -/
theorem openItem_ready (hl : Ready l bs) (start : Nat) :
    ∃ done li cs ts, l.openItem dash start 2 = ⟨[.item li start 2 []], none, done, [], false, none⟩
      ∧ Tells done.reverse cs ∧ IsBullets li ts ∧ bs = cs ++ ts.reverse.map Block.bullet := by
  cases hl with
  | @outside done _ blankBefore hdone =>
    refine ⟨done, ⟨start, dash, true, []⟩, bs, [], ?_, hdone, ⟨rfl, List.Forall₂.nil⟩, by simp⟩
    cases blankBefore <;> rfl
  | @idle done cs li ts hdone hlist =>
    refine ⟨done, { li with tight := false }, cs, ts, ?_, hdone, ⟨hlist.mark, hlist.items⟩, rfl⟩
    have hsame : (some li).filter (fun li => li.mark.sign == dash.sign) = some li := by
      simp [Option.filter, hlist.mark]
    simp [Layout.openItem, Layout.settle, hsame]

/-- At the end of the page, all its blocks are told. -/
theorem tells_finish (hl : Between l bs) (stop : Nat) : Tells (l.finish stop) bs := by
  have hready := ready_closeFrames hl stop
  rw [Layout.finish]
  generalize l.closeFrames stop l.frames.length = m at hready
  cases hready with
  | outside blankBefore hdone => exact hdone
  | idle hdone hlist => exact tells_concat hdone (tells_bullets hlist stop)

/-! ## Steps -/

theorem lines_cons {m : Layout} {n : Nat} (h : l.line line rest = (m, n)) :
    l.lines (line :: rest) = m.lines (rest.drop n) := by
  rw [Layout.lines, h]

/-- A line that is not indented leaves the item of the last bullet. -/
theorem enter_between (hl : Between l bs) (hline : line.glyphs = g :: gs)
    (hg : g.char ≠ ' ' ∧ g.char ≠ '\t') : l.enter line = (0, Cursor.ofLine line) := by
  cases hl with
  | outside blankBefore hdone => rfl
  | inItem hdone hlist hitem =>
    have hspaces : (Cursor.ofLine line).readSpaces 2 = (0, Cursor.ofLine line) :=
      Markdown.readSpaces_eq_self rfl hline hg 2
    have hend : (Cursor.ofLine line).atEnd = false := by simp [Cursor.atEnd, Cursor.ofLine, hline]
    simp [Layout.enter, Markdown.enterFrames, Frame.enter?, hspaces, hend]

theorem line_outside_blank (hblank : blank.IsEmpty) (done : List (Markdown.Part Passage)) :
    ({ done := done } : Layout).line blank more = (⟨[], none, done, [], true, none⟩, 0) := by
  have hglyphs : blank.glyphs = [] := hblank
  simp [Layout.line, Layout.enter, Markdown.enterFrames, Layout.closeFrames, Cursor.ofLine,
    Layout.openMarks, hglyphs, Cursor.isBlank, Markdown.isBlankRest, Layout.blank]

/-- Lines that make up a part, and the empty line behind them, lead to the next block. -/
theorem step_leaf {a : Char} {u : Text} (hl : Between l bs) (hline : line.text = a :: u)
    (ha : Markdown.isMarker a = false) (hblank : blank.IsEmpty) (ls : List Line)
    (hleaf : ∀ done, ∃ p, Tells [p] [b] ∧
      ({ done := done } : Layout).leaf line (Cursor.ofLine line) (ls ++ blank :: more)
        = (.part p, ls.length)) :
    ∃ m, Between m (bs ++ [b]) ∧ l.lines (line :: (ls ++ blank :: more)) = m.lines more := by
  obtain ⟨g, gs, hrest, rfl, -⟩ := List.map_eq_cons_iff.1 hline
  have hentered := enter_between hl hrest
    ⟨Markdown.ne_of_isMarker ha (by decide), Markdown.ne_of_isMarker ha (by decide)⟩
  have hsome : (Cursor.ofLine line).isBlank = false := by
    have hglyphs : (Cursor.ofLine line).rest = g :: gs := hrest
    rw [Cursor.isBlank, hglyphs, Markdown.isBlankRest_start ha]
  obtain ⟨done, hended, hdone⟩ := endList_ready (ready_closeFrames hl line.start) line.start
  obtain ⟨p, hp, hfound⟩ := hleaf done
  -- all frames are left, the list before ends, and what is left of the line starts the part
  have hstep : l.line line (ls ++ blank :: more) = ({ done := p :: done }, ls.length) := by
    simp only [Layout.line, hentered, Nat.sub_zero]
    rw [Markdown.openMarks_start ha _ line _ rfl hrest]
    simp [hsome, hended, hfound, Layout.add]
  refine ⟨⟨[], none, p :: done, [], true, none⟩, .outside true (tells_concat hdone hp), ?_⟩
  rw [lines_cons hstep, List.drop_left, lines_cons (line_outside_blank hblank (p :: done)),
    List.drop_zero]

theorem step_heading {level : Nat} (hl : Between l bs) (hlevel : 1 ≤ level ∧ level ≤ 6)
    (ht : Text.IsWords t) (hline : line.text = List.replicate level '#' ++ ' ' :: t)
    (hblank : blank.IsEmpty) :
    ∃ m, Between m (bs ++ [.heading level t]) ∧
      l.lines (line :: blank :: more) = m.lines more := by
  obtain ⟨n, rfl⟩ : ∃ n, level = n + 1 := ⟨level - 1, by omega⟩
  have hstart : line.text = '#' :: (List.replicate n '#' ++ ' ' :: t) := by
    rw [hline, List.replicate_succ, List.cons_append]
  refine step_leaf hl hstart (by decide) hblank [] fun done => ?_
  have hrest : chars (Cursor.ofLine line).rest = '#' :: (List.replicate n '#' ++ ' ' :: t) := hstart
  have hfound := Markdown.leaf_heading { done := done } line (blank :: more) rfl hrest
    (Markdown.headingLevel?_heading hlevel hline)
  exact ⟨_, tells_heading _ ht (n + 1) (Markdown.chars_headingContent ht hline), hfound⟩

theorem step_paragraph (hl : Between l bs) (ht : Text.IsWords t) (hline : line.text = t)
    (hblank : blank.IsEmpty) :
    ∃ m, Between m (bs ++ [.paragraph t]) ∧ l.lines (line :: blank :: more) = m.lines more := by
  obtain ⟨a, u, htext, ha⟩ := ht.exists_cons
  have hmarker := Markdown.isMarker_of_isAlpha ha
  refine step_leaf hl (hline.trans htext) hmarker hblank [] fun done => ?_
  have hrest : chars (Cursor.ofLine line).rest = t := hline
  have hfound := Markdown.leaf_start { done := done } line (blank :: more) rfl (hrest.trans htext)
    hmarker (Text.ne_of_isAlpha ha (by decide))
  rw [Layout.paragraph_words ht hrest hblank] at hfound
  exact ⟨_, tells_paragraph _ ht hrest, hfound⟩

theorem step_table {head : List Text} {body : List (List Text)} {delimiter : Line} {ls : List Line}
    (hl : Between l bs) (hne : head ≠ []) (hhead : ∀ c ∈ head, Text.IsWords c)
    (hbody : ∀ row ∈ body, row.length = head.length ∧ ∀ c ∈ row, Text.IsWords c)
    (hline : line.text = Markdown.pipeRow head)
    (hdelimiter : delimiter.text = Markdown.delimiterRow head.length)
    (hrows : List.Forall₂ (fun line row => line.text = Markdown.pipeRow row) ls body)
    (hblank : blank.IsEmpty) :
    ∃ m, Between m (bs ++ [.table (head :: body)]) ∧
      l.lines (line :: delimiter :: (ls ++ blank :: more)) = m.lines more := by
  have hfilled : ∀ row ∈ body, row ≠ [] ∧ ∀ c ∈ row, Text.IsWords c := by
    intro row hrow
    obtain ⟨hlength, hcells⟩ := hbody row hrow
    refine ⟨?_, hcells⟩
    rintro rfl
    exact hne (List.length_eq_zero_iff.1 hlength.symm)
  refine step_leaf hl hline (by decide) hblank (delimiter :: ls) fun done => ?_
  have hframes : ({ done := done } : Layout).frames = [] := rfl
  have hrest : chars (Cursor.ofLine line).rest = Markdown.pipeRow head := hline
  obtain ⟨span, htable⟩ := Layout.paragraph_rows hframes line more hne hhead hrest hdelimiter hrows
    hfilled hblank
  have hfound := Markdown.leaf_start { done := done } line (delimiter :: (ls ++ blank :: more)) rfl
    hrest (by decide) (by decide)
  rw [htable, Nat.add_comm] at hfound
  exact ⟨_, tells_table span line hhead hrest hrows hbody, hfound⟩

theorem line_item_blank (hblank : blank.IsEmpty) (li : OpenList) (start : Nat)
    (done : List (Markdown.Part Passage)) :
    (⟨[.item li start 2 ps], none, done, [], false, none⟩ : Layout).line blank more
      = (⟨[.item li start 2 ps], none, done, [], true, none⟩, 0) := by
  have hrest : (Cursor.ofLine blank).rest = [] := hblank
  have hspaces : (Cursor.ofLine blank).readSpaces 2 = (0, Cursor.ofLine blank) :=
    Markdown.readSpaces_atEnd rfl hrest 2
  have hend : (Cursor.ofLine blank).atEnd = true := by simp [Cursor.atEnd, hrest]
  simp [Layout.line, Layout.enter, Markdown.enterFrames, Frame.enter?, hspaces, hend,
    Layout.closeFrames, Layout.openMarks, hrest, Cursor.isBlank, Markdown.isBlankRest, Layout.blank]

/-- The line of a bullet opens an item, and its words are left. -/
theorem openMarks_bullet (hl : Ready l bs) (ht : Text.IsWords t)
    (hline : line.text = '-' :: ' ' :: t) :
    ∃ done li cs ts after,
      Layout.openMarks line line.glyphs.length l (Cursor.ofLine line)
          = (⟨[.item li line.start 2 []], none, done, [], false, none⟩, some after) ∧
        (chars after.rest = t ∧ after.owed = 0) ∧ Tells done.reverse cs ∧ IsBullets li ts ∧
        bs = cs ++ ts.reverse.map Block.bullet := by
  obtain ⟨mark, tail, hglyphs, hmark, -⟩ := List.map_eq_cons_iff.1 hline
  have hrest : (Cursor.ofLine line).rest = mark :: tail := hglyphs
  have hspaces : (Cursor.ofLine line).readSpaces 4 = (0, Cursor.ofLine line) :=
    Markdown.readSpaces_eq_self rfl hrest (by rw [hmark]; decide) 4
  obtain ⟨after, hfound, hwords, howed⟩ := Markdown.itemMark?_dash ht rfl
    (show chars (Cursor.ofLine line).rest = '-' :: ' ' :: t from hline)
  obtain ⟨g, gs, hafter, hg⟩ := Markdown.exists_first_letter ht hwords
  have hmarker : Markdown.isMarker g.char = false := Markdown.isMarker_of_isAlpha hg
  have hsome : after.isBlank = false := by
    rw [Cursor.isBlank, hafter, Markdown.isBlankRest_start hmarker]
  obtain ⟨done, li, cs, ts, hopened, htold⟩ := openItem_ready hl line.start
  refine ⟨done, li, cs, ts, after, ?_, ⟨hwords, howed⟩, htold⟩
  rw [hglyphs, List.length_cons, Layout.openMarks, hspaces]
  dsimp only
  rw [if_neg (by decide), hfound]
  dsimp only
  -- the words open nothing further
  rw [hsome, if_neg Bool.false_ne_true, Markdown.openMarks_start hmarker _ line _ howed hafter]
  exact congrArg (fun m => (m, some after)) hopened

/-- The line of a bullet and the empty line behind it lead to the next block. -/
theorem step_bullet (hl : Between l bs) (ht : Text.IsWords t)
    (hline : line.text = '-' :: ' ' :: t) (hblank : blank.IsEmpty) :
    ∃ m, Between m (bs ++ [.bullet t]) ∧ l.lines (line :: blank :: more) = m.lines more := by
  have hentered : l.enter line = (0, Cursor.ofLine line) := by
    obtain ⟨mark, tail, hglyphs, hmark, -⟩ := List.map_eq_cons_iff.1 hline
    exact enter_between hl hglyphs (by rw [hmark]; decide)
  obtain ⟨done, li, cs, ts, after, hmarks, ⟨hwords, howed⟩, hdone, hlist, rfl⟩ :=
    openMarks_bullet (ready_closeFrames hl line.start) ht hline
  obtain ⟨g, gs, hafter, hg⟩ := Markdown.exists_first_letter ht hwords
  have hmarker : Markdown.isMarker g.char = false := Markdown.isMarker_of_isAlpha hg
  have hsome : after.isBlank = false := by
    rw [Cursor.isBlank, hafter, Markdown.isBlankRest_start hmarker]
  have hleaf : (⟨[.item li line.start 2 []], none, done, [], false, none⟩ : Layout).leaf line after
      (blank :: more) = (.part (.paragraph ⟨after.pos, line.stop⟩ ⟨after.rest, false⟩), 0) := by
    have hstart : chars after.rest = g.char :: chars gs := by rw [hafter]; rfl
    rw [Markdown.leaf_start _ line _ howed hstart hmarker (Text.ne_of_isAlpha hg (by decide))]
    exact Layout.paragraph_words ht hwords hblank
  have hstep : l.line line (blank :: more)
      = (⟨[.item li line.start 2 [.paragraph ⟨after.pos, line.stop⟩ ⟨after.rest, false⟩]], none,
          done, [], false, none⟩, 0) := by
    have hlength : (Cursor.ofLine line).rest.length = line.glyphs.length := rfl
    simp only [Layout.line, hentered, Nat.sub_zero]
    rw [hlength, hmarks]
    simp [hsome, Layout.endList, Layout.settle, Layout.closeIdle, Layout.loosen, hleaf, Layout.add]
  have hnext : Between
      ⟨[.item li line.start 2 [.paragraph ⟨after.pos, line.stop⟩ ⟨after.rest, false⟩]], none, done,
        [], true, none⟩
      (cs ++ (t :: ts).reverse.map Block.bullet) :=
    .inItem hdone hlist fun stop => ⟨ht, _, _, after.rest, rfl, hwords⟩
  rw [List.reverse_cons, List.map_append, ← List.append_assoc] at hnext
  refine ⟨_, hnext, ?_⟩
  rw [lines_cons hstep, List.drop_zero, lines_cons (line_item_blank hblank li line.start done),
    List.drop_zero]

end Scenarist.Reading
