/-
  Turns — one turn of each loop over lines, tables, lists and items.

  1. `Turns` says that a turn goes well: with so much fuel it ends, it moves the cursor on, and the
     loop should give what it should give from there.  `Runs` says the same of a loop up to its end.

  2. A loop runs well if its turn does and all loops run well further on (`runs_of_turns`).  Most of
     the loops inside a turn start further on.  Two start where the turn does: the line of a run of
     text, and the way past what is left out.  They have no such loop in them, so they come first
     (`runs_line`, `run_skip`).  So two turns may be open at one place, and no more.

  3. A line may end without taking its first event.  Then the run of text passes over that event, so
     an item moves on all the same (`runTurn_eq`).
-/
import Scenarist.Proofs.Page.Cursor

namespace Scenarist.Reading

open Markdown (Span Tag TagEnd Event Located)

namespace Loop

variable {file : Nat} {events : List Located} {k : Kind} {loop : Loop k} {e : Located}
  {event : Event} {s : Span} {i j n : Nat}

/-! ## What goes well -/

/-- A turn that goes well for the event at the cursor, with fuel `n` or more for the loops in it.
Only a line is left without moving on. -/
inductive Turns (file : Nat) (events : List Located) (n : Nat) (loop : Loop k) (e : Located)
    (i : Nat) : Prop where
  /-- It goes round again further on, and what the loop gives there it should give here. -/
  | again (next : Loop k) (j : Nat)
      (hturn : ∀ fuel, n ≤ fuel →
        loop.turn file events (run file events fuel) e i = some (.again next, j))
      (hlt : i < j) (hle : j ≤ events.length)
      (hreads : ∀ r rest, next.Reads file (events.drop j) r rest →
        loop.Reads file (events.drop i) r rest)
  /-- It leaves the loop with what it should give. -/
  | leave (j : Nat)
      (hturn : ∀ fuel, n ≤ fuel →
        loop.turn file events (run file events fuel) e i = some (.leave, j))
      (hij : i ≤ j) (hle : j ≤ events.length) (hlt : k ≠ .line → i < j)
      (hreads : loop.Reads file (events.drop i) loop.result (events.drop j))

/-- A loop that ends with fuel `n` or more, with the cursor not before where it was and not after
the events. -/
def Runs (file : Nat) (events : List Located) (n : Nat) (loop : Loop k) (i : Nat) : Prop :=
  ∃ r j, (∀ fuel, n ≤ fuel → loop.run file events fuel i = some (r, j)) ∧
    i ≤ j ∧ j ≤ events.length ∧ loop.Reads file (events.drop i) r (events.drop j)

/-- Whether all loops run well that start after `i`. -/
def RunAfter (file : Nat) (events : List Located) (n i : Nat) : Prop :=
  ∀ j, i < j → j ≤ events.length → ∀ (k : Kind) (loop : Loop k), Runs file events n loop j

theorem Turns.mono {m : Nat} (hmn : m ≤ n) (h : Turns file events m loop e i) :
    Turns file events n loop e i := by
  cases h with
  | again next j hturn hlt hle hreads =>
    exact .again next j (fun fuel hfuel => hturn fuel (Nat.le_trans hmn hfuel)) hlt hle hreads
  | leave j hturn hij hle hlt hreads =>
    exact .leave j (fun fuel hfuel => hturn fuel (Nat.le_trans hmn hfuel)) hij hle hlt hreads

theorem Runs.mono {m : Nat} (hmn : m ≤ n) (h : Runs file events m loop i) :
    Runs file events n loop i := by
  obtain ⟨r, j, hrun, hrest⟩ := h
  exact ⟨r, j, fun fuel hfuel => hrun fuel (Nat.le_trans hmn hfuel), hrest⟩

theorem lt_of_event (he : events[i]? = some e) : i < events.length :=
  (List.getElem?_eq_some_iff.1 he).1

theorem drop_of_event (he : events[i]? = some e) : events.drop i = e :: events.drop (i + 1) := by
  obtain ⟨hlt, rfl⟩ := List.getElem?_eq_some_iff.1 he
  exact List.drop_eq_getElem_cons hlt

theorem RunAfter.succ (hafter : RunAfter file events n i) (he : events[i]? = some e)
    (loop : Loop k) : Runs file events n loop (i + 1) :=
  hafter (i + 1) (Nat.lt_succ_self i) (lt_of_event he) k loop

/-- A turn that takes one event and goes round again. -/
theorem Turns.pass (next : Loop k) (he : events[i]? = some e)
    (hturn : ∀ go, loop.turn file events go e i = some (.again next, i + 1))
    (hreads : ∀ es r rest, next.Reads file es r rest → loop.Reads file (e :: es) r rest) :
    Turns file events n loop e i := by
  refine .again next (i + 1) (fun _ _ => hturn _) (Nat.lt_succ_self i) (lt_of_event he)
    fun r rest h => ?_
  rw [drop_of_event he]
  exact hreads _ r rest h

/-- A turn that takes one event and leaves. -/
theorem Turns.last (he : events[i]? = some e)
    (hturn : ∀ go, loop.turn file events go e i = some (.leave, i + 1))
    (hreads : ∀ es, loop.Reads file (e :: es) loop.result es) : Turns file events n loop e i := by
  refine .leave (i + 1) (fun _ _ => hturn _) (Nat.le_succ i) (lt_of_event he)
    (fun _ => Nat.lt_succ_self i) ?_
  rw [drop_of_event he]
  exact hreads _

/-- **A loop runs well** if its turn goes well and loops run well further on. -/
theorem runs_of_turns (hi : i ≤ events.length)
    (hturns : ∀ e, events[i]? = some e → Turns file events n loop e i)
    (hafter : RunAfter file events n i) : Runs file events (n + 1) loop i := by
  cases he : events[i]? with
  | none =>
    have hend : i = events.length := Nat.le_antisymm hi (List.getElem?_eq_none_iff.1 he)
    refine ⟨loop.result, i, fun fuel hfuel => ?_, Nat.le_refl i, hi, ?_⟩
    · obtain ⟨fuel, rfl⟩ := Nat.exists_eq_add_of_le' hfuel
      exact run_end (Nat.le_of_eq hend.symm)
    · rw [hend, List.drop_length]
      exact reads_nil file loop
  | some e =>
    cases hturns e he with
    | again next j hturn hlt hle hreads =>
      obtain ⟨r, m, hrun, hjm, hm, hr⟩ := hafter j hlt hle k next
      refine ⟨r, m, fun fuel hfuel => ?_, by omega, hm, hreads r _ hr⟩
      obtain ⟨fuel, rfl⟩ := Nat.exists_eq_add_of_le' hfuel
      have hfuel : n ≤ fuel + n := Nat.le_add_left n fuel
      exact (run_again he (hturn _ hfuel)).trans (hrun _ hfuel)
    | leave j hturn hij hle _ hreads =>
      refine ⟨loop.result, j, fun fuel hfuel => ?_, hij, hle, hreads⟩
      obtain ⟨fuel, rfl⟩ := Nat.exists_eq_add_of_le' hfuel
      exact run_leave he (hturn _ (Nat.le_add_left n fuel))

/-! ## Lines, ends and what is left out -/

/-- A link that is open where a line stops counts as closed, but for its end. -/
theorem inlineText_unclosed {style : LinkStyle} {text : Text} {es : List Located}
    (hstop : inlineText style [] text es = (text, es))
    (hopen : ∀ s, es.head? ≠ some (.finish .link, s)) (l : OpenLink) (links : List OpenLink) :
    inlineText style (l :: links) text es = inlineText style links (l.close style text) es := by
  cases es with
  | nil => rfl
  | cons e es =>
    obtain ⟨e, s⟩ := e
    -- an event of the line would have been taken
    have htaken : ∀ links' text', inlineText style links' text' es ≠ (text, (e, s) :: es) := by
      intro links' text' h
      have hlen := inlineText_length style links' text' es
      rw [h] at hlen
      exact Nat.not_succ_le_self _ hlen
    cases e with
    | start tag =>
      cases tag with
      | emphasis | strong | strikethrough | link | image => exact absurd hstop (htaken _ _)
      | _ => rfl
    | finish tag =>
      cases tag with
      | emphasis | strong | strikethrough | image => exact absurd hstop (htaken _ _)
      | link => exact absurd rfl (hopen s)
      | _ => rfl
    | html | rule => rfl
    | _ => exact absurd hstop (htaken _ _)

/-- A turn of a line that takes one event. -/
theorem turns_line_pass {style : LinkStyle} {text : Text} (text' : Text)
    (he : events[i]? = some (event, s))
    (hturn : ∀ go, lineTurn events go style text event i = some (.again (.line style text'), i + 1))
    (hread : ∀ links es,
      inlineText style links text ((event, s) :: es) = inlineText style links text' es) :
    Turns file events n (.line style text) (event, s) i := by
  refine .pass (.line style text') he (fun _ => by rw [turn, hturn]) fun es r rest h => ?_
  exact ⟨fun links => (hread links es).trans (h.1 links), h.2⟩

/-- A turn of a line that takes nothing and leaves. -/
theorem turns_line_stop {style : LinkStyle} {text : Text} (he : events[i]? = some (event, s))
    (hturn : ∀ go, lineTurn events go style text event i = some (.leave, i))
    (hread : ∀ es, inlineText style [] text ((event, s) :: es) = (text, (event, s) :: es)) :
    Turns file events n (.line style text) (event, s) i := by
  refine .leave i (fun _ _ => by rw [turn, hturn]) (Nat.le_refl i) (Nat.le_of_lt (lt_of_event he))
    (absurd rfl) ⟨fun links => rfl, ?_⟩
  rw [drop_of_event he]
  exact hread _

/-- A turn of a line that reads a link, with or without its end. -/
theorem turns_line_link {address : Text} (he : events[i]? = some (.start (.link address), s))
    (hafter : RunAfter file events n i) (style : LinkStyle) (text : Text) :
    Turns file events n (.line style text) (.start (.link address), s) i := by
  obtain ⟨label, j, hrun, hij, hj, hline, hend⟩ := hafter.succ he (.line style [])
  have hlabel : ∀ links, inlineText style links text (events.drop i)
      = inlineText style (⟨text, address⟩ :: links) label (events.drop j) := by
    intro links
    rw [← hline, drop_of_event he]
    rfl
  by_cases hclosed : linkEnds events j = true
  · obtain ⟨s', hfinish⟩ := linkEnds_iff.1 hclosed
    refine .again (.line style (text ++ linkText style label address)) (j + 1) ?_
      (Nat.lt_succ_of_lt hij) (lt_of_event hfinish) ?_
    · intro fuel hfuel
      rw [turn, lineTurn]
      simp only [hrun fuel hfuel, Option.bind_eq_bind, Option.bind_some, if_pos hclosed]
    · rintro r rest ⟨hr, hrest⟩
      refine ⟨fun links => ?_, hrest⟩
      rw [hlabel, drop_of_event hfinish, ← hr]
      rfl
  · refine .again (.line style (text ++ linkText style label address)) j ?_ hij hj ?_
    · intro fuel hfuel
      rw [turn, lineTurn]
      simp only [hrun fuel hfuel, Option.bind_eq_bind, Option.bind_some, if_neg hclosed]
    · rintro r rest ⟨hr, hrest⟩
      refine ⟨fun links => ?_, hrest⟩
      have hopen : ∀ s, (events.drop j).head? ≠ some (.finish .link, s) := by
        intro s h
        rw [List.head?_drop] at h
        exact hclosed (linkEnds_iff.2 ⟨s, h⟩)
      rw [hlabel, inlineText_unclosed hend hopen, ← hr]
      rfl

theorem turns_line (he : events[i]? = some e) (hafter : RunAfter file events n i)
    (style : LinkStyle) (text : Text) : Turns file events n (.line style text) e i := by
  obtain ⟨event, s⟩ := e
  cases event with
  | start tag =>
    cases tag with
    | link address => exact turns_line_link he hafter style text
    | emphasis | strong | strikethrough | image =>
      exact turns_line_pass text he (fun _ => by simp [lineTurn, Tag.isInline]) fun _ _ => rfl
    | _ => exact turns_line_stop he (fun _ => by simp [lineTurn, Tag.isInline]) fun _ => rfl
  | finish tag =>
    cases tag with
    | emphasis | strong | strikethrough | image =>
      exact turns_line_pass text he (fun _ => by simp [lineTurn]) fun _ _ => rfl
    | _ => exact turns_line_stop he (fun _ => by simp [lineTurn]) fun _ => rfl
  | text t | code t =>
    exact turns_line_pass (text ++ t) he (fun _ => by simp [lineTurn]) fun _ _ => rfl
  | softBreak =>
    exact turns_line_pass (text ++ [' ']) he (fun _ => by simp [lineTurn]) fun _ _ => rfl
  | hardBreak =>
    exact turns_line_pass (text ++ ['\n']) he (fun _ => by simp [lineTurn]) fun _ _ => rfl
  | inlineHtml => exact turns_line_pass text he (fun _ => by simp [lineTurn]) fun _ _ => rfl
  | html | rule => exact turns_line_stop he (fun _ => by simp [lineTurn]) fun _ => rfl

/-- A line runs well that starts where a turn of another loop does. -/
theorem runs_line (he : events[i]? = some e) (hafter : RunAfter file events n i)
    (style : LinkStyle) (text : Text) : Runs file events (n + 1) (.line style text) i :=
  runs_of_turns (Nat.le_of_lt (lt_of_event he)) (fun _ he => turns_line he hafter style text) hafter

theorem turns_finish (he : events[i]? = some e) (tag : TagEnd) :
    Turns file events n (.finish tag) e i := by
  obtain ⟨e, s⟩ := e
  by_cases h : e = .finish tag
  · refine .last he (fun _ => by rw [turn, if_pos h]) fun es => ?_
    show skipPast tag ((e, s) :: es) = es
    rw [skipPast, if_pos h]
  · refine .pass (.finish tag) he (fun _ => by rw [turn, if_neg h]) fun es r rest hr => ?_
    show skipPast tag ((e, s) :: es) = rest
    rw [skipPast, if_neg h]
    exact hr

theorem turns_skip (he : events[i]? = some e) (depth : Nat) :
    Turns file events n (.skip depth) e i := by
  obtain ⟨e, s⟩ := e
  by_cases h : depthAfter depth e = 0
  · refine .last he (fun _ => by rw [turn]; simp only [h, if_true]) fun es => ?_
    show Reading.skip depth ((e, s) :: es) = es
    rw [Reading.skip, if_pos h]
  · refine .pass (.skip (depthAfter depth e)) he (fun _ => by rw [turn]; simp only [h, if_false])
      fun es r rest hr => ?_
    show Reading.skip depth ((e, s) :: es) = rest
    rw [Reading.skip, if_neg h]
    exact hr

/-- What is left out is at least one event, and the cursor gets past it. -/
theorem run_skip (he : events[i]? = some e) (hafter : RunAfter file events n i) :
    ∃ j, (∀ fuel, n + 1 ≤ fuel → (Loop.skip 0).run file events fuel i = some ((), j)) ∧
      i < j ∧ j ≤ events.length ∧ Reading.skip 0 (events.drop i) = events.drop j := by
  have hruns : Runs file events (n + 1) (.skip 0) i :=
    runs_of_turns (Nat.le_of_lt (lt_of_event he)) (fun _ he => turns_skip he 0) hafter
  obtain ⟨_, j, hrun, _, hj, hskip⟩ := hruns
  have hskip : Reading.skip 0 (events.drop i) = events.drop j := hskip
  have hlt := skip_lt 0 e (events.drop (i + 1))
  rw [← drop_of_event he, hskip, List.length_drop, List.length_drop] at hlt
  exact ⟨j, hrun, by omega, hj, hskip⟩

/-- The text of a paragraph, a heading or a cell that has started at the cursor. -/
theorem leaf_eq (hafter : RunAfter file events n i) (he : events[i]? = some e) (style : LinkStyle)
    (tag : TagEnd) :
    ∃ text j, (∀ fuel, n ≤ fuel →
        leaf (run file events fuel) style tag (i + 1) = some (text, j)) ∧
      i < j ∧ j ≤ events.length ∧
      leafText style tag (events.drop (i + 1)) = (text, events.drop j) := by
  obtain ⟨text, m, hline, him, hm, hread, hstop⟩ := hafter.succ he (.line style [])
  obtain ⟨_, j, hfinish, hmj, hj, hpast⟩ := hafter m him hm _ (.finish tag)
  refine ⟨text, j, ?_, Nat.lt_of_lt_of_le him hmj, hj, ?_⟩
  · intro fuel hfuel
    rw [leaf]
    simp only [hline fuel hfuel, hfinish fuel hfuel, Option.bind_eq_bind, Option.bind_some]
  · rw [leafText, hread, hstop]
    exact Prod.ext rfl hpast

/-! ## Tables and lists -/

/-- A turn of a table that takes one event. -/
theorem turns_table_pass {rows : List (List Text)} {row : List Text} (rows' : List (List Text))
    (row' : List Text) (he : events[i]? = some (event, s))
    (hturn : ∀ go, tableTurn go rows row event i = some (.again (.table rows' row'), i + 1))
    (hread : ∀ es, tableRows rows row ((event, s) :: es) = tableRows rows' row' es) :
    Turns file events n (.table rows row) (event, s) i := by
  refine .pass (.table rows' row') he (fun _ => by rw [turn, hturn]) fun es r rest hr => ?_
  exact (hread es).trans hr

/-- A turn of a table that reads a cell. -/
theorem turns_table_cell (he : events[i]? = some (.start .tableCell, s))
    (hafter : RunAfter file events n i) (rows : List (List Text)) (row : List Text) :
    Turns file events n (.table rows row) (.start .tableCell, s) i := by
  obtain ⟨cell, j, hleaf, hij, hj, hread⟩ := leaf_eq hafter he .label .tableCell
  refine .again (.table rows (Text.trim cell :: row)) j ?_ hij hj fun r rest hr => ?_
  · intro fuel hfuel
    rw [turn, tableTurn, hleaf fuel hfuel]
    rfl
  · show tableRows rows row (events.drop i) = (r, rest)
    rw [drop_of_event he, tableRows]
    simp only [hread]
    exact hr

theorem turns_table (he : events[i]? = some e) (hafter : RunAfter file events n i)
    (rows : List (List Text)) (row : List Text) : Turns file events n (.table rows row) e i := by
  obtain ⟨event, s⟩ := e
  cases event with
  | start tag =>
    cases tag with
    | tableCell => exact turns_table_cell he hafter rows row
    | _ =>
      exact turns_table_pass rows row he (fun _ => by simp [tableTurn])
        fun es => by simp [tableRows]
  | finish tag =>
    cases tag with
    | table =>
      refine .last he (fun _ => by simp [turn, tableTurn]) fun es => ?_
      show tableRows rows row _ = _
      rw [tableRows]
      rfl
    | tableHead | tableRow =>
      exact turns_table_pass (row.reverse :: rows) [] he (fun _ => by simp [tableTurn])
        fun es => by simp [tableRows]
    | _ =>
      exact turns_table_pass rows row he (fun _ => by simp [tableTurn])
        fun es => by simp [tableRows]
  | _ =>
    exact turns_table_pass rows row he (fun _ => by simp [tableTurn]) fun es => by simp [tableRows]

/-- A turn of a list that passes over one event. -/
theorem turns_list_pass {blocks : List Block} {om : List Omission}
    (he : events[i]? = some (event, s))
    (hturn : ∀ go, listTurn go blocks om event i = some (.again (.list blocks om), i + 1))
    (hread : ∀ below es, bullets file (.list :: below) blocks om ((event, s) :: es)
      = bullets file (.list :: below) blocks om es) :
    Turns file events n (.list blocks om) (event, s) i := by
  refine .pass (.list blocks om) he (fun _ => by rw [turn, hturn]) fun es r rest hr below => ?_
  exact (hread below es).trans (hr below)

/-- A turn of a list that reads an item. -/
theorem turns_list_item (he : events[i]? = some (.start .item, s))
    (hafter : RunAfter file events n i) (blocks : List Block) (om : List Omission) :
    Turns file events n (.list blocks om) (.start .item, s) i := by
  obtain ⟨⟨found, left⟩, j, hrun, hij, hj, hitem⟩ := hafter.succ he (.item [] [] om)
  refine .again (.list (blocks ++ found) left) j ?_ hij hj fun r rest hr below => ?_
  · intro fuel hfuel
    rw [turn, listTurn, hrun fuel hfuel]
    rfl
  · rw [drop_of_event he, bullets]
    exact (hitem blocks (.list :: below)).trans (hr below)

theorem turns_list (he : events[i]? = some e) (hafter : RunAfter file events n i)
    (blocks : List Block) (om : List Omission) : Turns file events n (.list blocks om) e i := by
  obtain ⟨event, s⟩ := e
  cases event with
  | start tag =>
    cases tag with
    | item => exact turns_list_item he hafter blocks om
    | _ => exact turns_list_pass he (fun _ => by simp [listTurn]) fun below es => by simp [bullets]
  | finish tag =>
    cases tag with
    | list =>
      refine .last he (fun _ => by simp [turn, listTurn]) fun es below => ?_
      rw [bullets]
      rfl
    | _ => exact turns_list_pass he (fun _ => by simp [listTurn]) fun below es => by simp [bullets]
  | _ => exact turns_list_pass he (fun _ => by simp [listTurn]) fun below es => by simp [bullets]

/-! ## Items -/

/-- A run of text in an item moves on, though the line may not. -/
theorem runTurn_eq (he : events[i]? = some e) (hafter : RunAfter file events n i) (text : Text)
    (blocks : List Block) (om : List Omission) :
    ∃ t j, (∀ fuel, n + 1 ≤ fuel → runTurn (run file events fuel) text blocks om i
        = some (.again (.item (joinRun text t) blocks om), j)) ∧
      i < j ∧ j ≤ events.length ∧ runText (events.drop i) = (t, events.drop j) := by
  obtain ⟨t, j, hrun, hij, hj, hline, hstop⟩ := runs_line he hafter .label []
  have hread : inlineText .label [] [] (events.drop i) = (t, events.drop j) :=
    (hline []).trans hstop
  have hturn : ∀ fuel, n + 1 ≤ fuel → runTurn (run file events fuel) text blocks om i
      = some (.again (.item (joinRun text t) blocks om), if j = i then i + 1 else j) := by
    intro fuel hfuel
    rw [runTurn]
    simp only [hrun fuel hfuel, Option.bind_eq_bind, Option.bind_some]
  have hi := lt_of_event he
  by_cases h : j = i
  · -- the line has ended where it started, so the event there is passed over
    subst h
    refine ⟨t, j + 1, fun fuel hfuel => by rw [hturn fuel hfuel, if_pos rfl],
      Nat.lt_succ_self j, hi, ?_⟩
    simp only [runText, hread, if_true, List.drop_drop]
  · refine ⟨t, j, fun fuel hfuel => by rw [hturn fuel hfuel, if_neg h], by omega, hj, ?_⟩
    have hlen : (events.drop j).length ≠ (events.drop i).length := by
      rw [List.length_drop, List.length_drop]
      omega
    simp only [runText, hread, if_neg hlen]

/-- A turn of an item that takes a run of text. -/
theorem turns_item_run {text : Text} {blocks : List Block} {om : List Omission}
    (he : events[i]? = some (event, s)) (hafter : RunAfter file events n i)
    (hturn : ∀ go, itemTurn file go text blocks om event s i = runTurn go text blocks om i)
    (hread : ∀ before below es,
      bullets file (.item before text :: below) blocks om ((event, s) :: es)
        = bullets file (.item before (joinRun text (runText ((event, s) :: es)).1) :: below) blocks
            om (runText ((event, s) :: es)).2) :
    Turns file events (n + 1) (.item text blocks om) (event, s) i := by
  obtain ⟨t, j, hrun, hij, hj, htext⟩ := runTurn_eq he hafter text blocks om
  refine .again (.item (joinRun text t) blocks om) j ?_ hij hj fun r rest hr before below => ?_
  · intro fuel hfuel
    rw [turn, hturn, hrun fuel hfuel]
  · rw [drop_of_event he] at htext ⊢
    rw [hread, htext]
    exact hr before below

/-- A turn of an item where something starts. -/
theorem turns_item_start {tag : Tag} (he : events[i]? = some (.start tag, s))
    (hafter : RunAfter file events n i) (text : Text) (blocks : List Block) (om : List Omission) :
    Turns file events (n + 1) (.item text blocks om) (.start tag, s) i := by
  by_cases hparagraph : tag = .paragraph
  · subst hparagraph
    obtain ⟨t, j, hleaf, hij, hj, hread⟩ := leaf_eq hafter he .label .paragraph
    refine .again (.item (joinRun text t) blocks om) j ?_ hij hj fun r rest hr before below => ?_
    · intro fuel hfuel
      rw [turn, itemTurn, hleaf fuel (Nat.le_of_succ_le hfuel)]
      rfl
    · rw [drop_of_event he, bullets]
      simp only [hread]
      exact hr before below
  by_cases hlist : tag = .list none
  · subst hlist
    obtain ⟨⟨found, left⟩, j, hrun, hij, hj, hnested⟩ := hafter.succ he (.list blocks om)
    refine .again (.item text found left) j ?_ hij hj fun r rest hr before below => ?_
    · intro fuel hfuel
      rw [turn, itemTurn, hrun fuel (Nat.le_of_succ_le hfuel)]
      rfl
    · rw [drop_of_event he, bullets]
      exact (hnested (.item before text :: below)).trans (hr before below)
  by_cases hline : tag.isInline = true
  · refine turns_item_run he hafter (fun go => ?_) fun before below es => ?_
    · rw [itemTurn, if_pos hline]
      · exact hparagraph
      · exact hlist
    · rw [bullets, if_pos hline]
      · exact hparagraph
      · exact hlist
  · obtain ⟨j, hrun, hij, hj, hskip⟩ := run_skip he hafter
    refine .again (.item text blocks (om ++ [omission file tag s])) j ?_ hij hj
      fun r rest hr before below => ?_
    · intro fuel hfuel
      rw [turn, itemTurn, if_neg hline]
      · simp only [hrun fuel hfuel, Option.bind_eq_bind, Option.bind_some]
      · exact hparagraph
      · exact hlist
    · rw [drop_of_event he] at hskip ⊢
      rw [bullets, if_neg hline, hskip]
      · exact hr before below
      · exact hparagraph
      · exact hlist

theorem turns_item (he : events[i]? = some e) (hafter : RunAfter file events n i) (text : Text)
    (blocks : List Block) (om : List Omission) :
    Turns file events (n + 1) (.item text blocks om) e i := by
  obtain ⟨event, s⟩ := e
  cases event with
  | start tag => exact turns_item_start he hafter text blocks om
  | finish tag =>
    cases tag with
    | item =>
      refine .last he (fun _ => by simp [turn, itemTurn]) fun es before below => ?_
      rw [bullets]
      rfl
    | _ =>
      exact turns_item_run he hafter (fun _ => by simp [itemTurn])
        fun _ _ es => by simp [bullets]
  | _ =>
    exact turns_item_run he hafter (fun _ => by simp [itemTurn]) fun _ _ es => by simp [bullets]

end Loop

end Scenarist.Reading
