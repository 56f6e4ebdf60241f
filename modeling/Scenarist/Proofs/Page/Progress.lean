/-
  Progress — whatever the events, every loop of the reader ends, and the cursor only moves on.

  1. The turns of groups and of pages go well, as those of the other loops do, if all loops run well
     further on.

  2. So all loops run well, by induction on the number of events from the cursor on (`runs`).  The
     fuel that is enough is two for each of these events, and two where they end.

  3. The loop of the page is never left by a turn.  It ends with the events, and gives the page that
     is read (`cursor_moves_on`).
-/
import Scenarist.Proofs.Page.Turns

namespace Scenarist.Reading

open Markdown (Span Tag TagEnd Event Located)

namespace Loop

variable {file : Nat} {events : List Located} {k : Kind} {e : Located} {event : Event} {s : Span}
  {i j n : Nat}

/-! ## Quotes -/

/-- A group should give what it should give where it reads on, whatever is open around it. -/
theorem reads_group {ends : TagEnd} {nodes nodes' : List RichNode} {om om' : List Omission}
    {es es' rest : List Located} {r : Kind.group.Result}
    (h : ∀ stack, quoteNodes file stack nodes om es = quoteNodes file stack nodes' om' es')
    (hr : (group ends nodes' om').Reads file es' r rest) :
    (group ends nodes om).Reads file es r rest :=
  ⟨fun before below => (h (⟨ends, before⟩ :: below)).trans (hr.1 before below),
    fun hends => (h []).trans (hr.2 hends)⟩

/-- A turn of a group that takes one event. -/
theorem turns_group_pass {ends : TagEnd} {nodes : List RichNode} {om : List Omission}
    (he : events[i]? = some (event, s)) (nodes' : List RichNode)
    (hturn : ∀ go, groupTurn file go ends nodes om event s i
      = some (.again (.group ends nodes' om), i + 1))
    (hread : ∀ stack es, quoteNodes file stack nodes om ((event, s) :: es)
      = quoteNodes file stack nodes' om es) :
    Turns file events (n + 1) (.group ends nodes om) (event, s) i := by
  refine .pass (.group ends nodes' om) he (fun _ => by rw [turn, hturn]) fun es r rest hr => ?_
  exact reads_group (fun stack => hread stack es) hr

/-- A turn of a group where something starts. -/
theorem turns_group_start {tag : Tag} (he : events[i]? = some (.start tag, s))
    (hafter : RunAfter file events n i) (ends : TagEnd) (nodes : List RichNode)
    (om : List Omission) :
    Turns file events (n + 1) (.group ends nodes om) (.start tag, s) i := by
  by_cases hlist : ∃ start, tag = .list start
  · obtain ⟨start, rfl⟩ := hlist
    exact turns_group_pass he nodes (fun _ => by simp [groupTurn])
      fun stack es => by simp [quoteNodes]
  have hlist : ∀ start, tag ≠ .list start := fun start h => hlist ⟨start, h⟩
  by_cases hgroup : isGroup tag = true
  · obtain ⟨⟨inner, left⟩, j, hrun, hij, hj, hinner, -⟩ :=
      hafter.succ he (.group tag.finish [] om)
    refine .again (.group ends (nodes ++ [endNode tag.finish inner]) left) j ?_ hij hj
      fun r rest hr => reads_group (fun stack => ?_) hr
    · intro fuel hfuel
      rw [turn, groupTurn, if_pos hgroup]
      · simp only [hrun fuel (Nat.le_of_succ_le hfuel), Option.bind_eq_bind, Option.bind_some]
      · exact hlist
    · rw [drop_of_event he, quoteNodes, if_pos hgroup]
      · exact hinner nodes stack
      · exact hlist
  · obtain ⟨j, hrun, hij, hj, hskip⟩ := run_skip he hafter
    refine .again (.group ends nodes (om ++ [omission file tag s])) j ?_ hij hj
      fun r rest hr => reads_group (fun stack => ?_) hr
    · intro fuel hfuel
      rw [turn, groupTurn, if_neg hgroup]
      · simp only [hrun fuel hfuel, Option.bind_eq_bind, Option.bind_some]
      · exact hlist
    · rw [drop_of_event he] at hskip ⊢
      rw [quoteNodes, if_neg hgroup, hskip]
      exact hlist

/-- A turn of a group where something ends, the group itself or another thing. -/
theorem turns_group_finish {tag : TagEnd} (he : events[i]? = some (.finish tag, s)) (ends : TagEnd)
    (nodes : List RichNode) (om : List Omission) :
    Turns file events (n + 1) (.group ends nodes om) (.finish tag, s) i := by
  by_cases hends : tag = ends
  · refine .last he (fun _ => by rw [turn, groupTurn, if_pos hends]) fun es => ⟨?_, ?_⟩
    · intro before below
      rw [quoteNodes, if_pos hends]
      rfl
    · intro hquote
      rw [quoteNodes, if_pos (hends.trans hquote)]
      rfl
  · refine .pass (.group ends nodes om) he (fun _ => by rw [turn, groupTurn, if_neg hends])
      fun es r rest hr => ⟨?_, ?_⟩
    · intro before below
      rw [quoteNodes, if_neg hends]
      exact hr.1 before below
    · intro hquote
      rw [quoteNodes, if_neg (hquote ▸ hends)]
      exact hr.2 hquote

theorem turns_group (he : events[i]? = some e) (hafter : RunAfter file events n i) (ends : TagEnd)
    (nodes : List RichNode) (om : List Omission) :
    Turns file events (n + 1) (.group ends nodes om) e i := by
  obtain ⟨event, s⟩ := e
  cases event with
  | start tag => exact turns_group_start he hafter ends nodes om
  | finish tag => exact turns_group_finish he ends nodes om
  | text t | code t =>
    exact turns_group_pass he (nodes ++ [.text t]) (fun _ => by simp [groupTurn])
      fun stack es => by simp [quoteNodes]
  | softBreak | hardBreak =>
    exact turns_group_pass he (nodes ++ [.lineBreak]) (fun _ => by simp [groupTurn])
      fun stack es => by simp [quoteNodes]
  | _ =>
    exact turns_group_pass he nodes (fun _ => by simp [groupTurn])
      fun stack es => by simp [quoteNodes]

/-! ## Pages -/

section Pages

variable {read : Page}

/-- A turn of the page goes well if the page is read on from where the cursor is then. -/
theorem turns_page_again (read' : Page) (he : events[i]? = some (event, s))
    (hturn : ∀ fuel, n + 1 ≤ fuel →
      pageTurn file (run file events fuel) read event s i = some (.again (.page read'), j))
    (hij : i < j) (hj : j ≤ events.length)
    (hread : Page.readEvents file read ((event, s) :: events.drop (i + 1))
      = Page.readEvents file read' (events.drop j)) :
    Turns file events (n + 1) (.page read) (event, s) i := by
  refine .again (.page read') j (fun fuel hfuel => by rw [turn, hturn fuel hfuel]) hij hj
    fun r rest hr => ⟨?_, hr.2⟩
  rw [drop_of_event he, hread]
  exact hr.1

/-- A turn of the page that reads a heading or a paragraph. -/
theorem turns_page_leaf {style : LinkStyle} {tag : TagEnd} (block : Text → Block)
    (he : events[i]? = some (event, s)) (hafter : RunAfter file events n i)
    (hturn : ∀ go, pageTurn file go read event s i = (do
      let (text, j) ← leaf go style tag (i + 1)
      some (.again (.page { read with blocks := read.blocks ++ [block text] }), j)))
    (hread : ∀ es, Page.readEvents file read ((event, s) :: es)
      = Page.readEvents file { read with blocks := read.blocks ++ [block (leafText style tag es).1] }
          (leafText style tag es).2) :
    Turns file events (n + 1) (.page read) (event, s) i := by
  obtain ⟨text, j, hleaf, hij, hj, htext⟩ := leaf_eq hafter he style tag
  refine turns_page_again { read with blocks := read.blocks ++ [block text] } he ?_ hij hj ?_
  · intro fuel hfuel
    rw [hturn, hleaf fuel (Nat.le_of_succ_le hfuel)]
    rfl
  · rw [hread, htext]

/-- A turn of the page that leaves something out. -/
theorem turns_page_skip {tag : Tag} (he : events[i]? = some (.start tag, s))
    (hafter : RunAfter file events n i)
    (hturn : ∀ go, pageTurn file go read (.start tag) s i = (do
      let (_, j) ← go (.skip 0) i
      some (.again (.page { read with omissions := read.omissions ++ [omission file tag s] }), j)))
    (hread : ∀ es, Page.readEvents file read ((.start tag, s) :: es)
      = Page.readEvents file { read with omissions := read.omissions ++ [omission file tag s] }
          (Reading.skip 0 ((.start tag, s) :: es))) :
    Turns file events (n + 1) (.page read) (.start tag, s) i := by
  obtain ⟨j, hrun, hij, hj, hskip⟩ := run_skip he hafter
  refine turns_page_again { read with omissions := read.omissions ++ [omission file tag s] } he ?_
    hij hj ?_
  · intro fuel hfuel
    rw [hturn, hrun fuel hfuel]
    rfl
  · rw [hread, ← drop_of_event he, hskip]

theorem turns_page_quote (he : events[i]? = some (.start .quote, s))
    (hafter : RunAfter file events n i) :
    Turns file events (n + 1) (.page read) (.start .quote, s) i := by
  obtain ⟨⟨nodes, left⟩, j, hrun, hij, hj, -, hread⟩ := hafter.succ he (.group .quote [] [])
  refine turns_page_again ⟨read.blocks ++ [.quote nodes], read.omissions ++ left⟩ he ?_ hij hj ?_
  · intro fuel hfuel
    rw [pageTurn, hrun fuel (Nat.le_of_succ_le hfuel)]
    rfl
  · rw [Page.readEvents]
    simp only [hread rfl]

/-- Where nothing is open, a list has been read. -/
theorem bullets_outside (blocks : List Block) (om : List Omission) (es : List Located) :
    bullets file [] blocks om es = ⟨blocks, om, es⟩ := by
  cases es with
  | nil =>
    rw [bullets]
    rfl
  | cons e es => rw [bullets]

theorem turns_page_list (he : events[i]? = some (.start (.list none), s))
    (hafter : RunAfter file events n i) :
    Turns file events (n + 1) (.page read) (.start (.list none), s) i := by
  obtain ⟨⟨found, left⟩, j, hrun, hij, hj, hread⟩ := hafter.succ he (.list [] [])
  have hfound : bullets file [.list] [] [] (events.drop (i + 1)) = ⟨found, left, events.drop j⟩ := by
    rw [hread []]
    exact bullets_outside found left _
  refine turns_page_again ⟨read.blocks ++ found, read.omissions ++ left⟩ he ?_ hij hj ?_
  · intro fuel hfuel
    rw [pageTurn, hrun fuel (Nat.le_of_succ_le hfuel)]
    rfl
  · rw [Page.readEvents]
    simp only [hfound]

theorem turns_page_table (he : events[i]? = some (.start .table, s))
    (hafter : RunAfter file events n i) :
    Turns file events (n + 1) (.page read) (.start .table, s) i := by
  obtain ⟨rows, j, hrun, hij, hj, hread⟩ := hafter.succ he (.table [] [])
  have hread : tableRows [] [] (events.drop (i + 1)) = (rows, events.drop j) := hread
  refine turns_page_again { read with blocks := read.blocks ++ [.table rows] } he ?_ hij hj ?_
  · intro fuel hfuel
    rw [pageTurn, hrun fuel (Nat.le_of_succ_le hfuel)]
    rfl
  · rw [Page.readEvents]
    simp only [hread]

theorem turns_page (he : events[i]? = some e) (hafter : RunAfter file events n i) (read : Page) :
    Turns file events (n + 1) (.page read) e i := by
  obtain ⟨event, s⟩ := e
  cases event with
  | start tag =>
    cases tag with
    | heading level =>
      exact turns_page_leaf (.heading level) he hafter (fun _ => by rw [pageTurn])
        fun es => by rw [Page.readEvents]
    | paragraph =>
      exact turns_page_leaf .paragraph he hafter (fun _ => by rw [pageTurn])
        fun es => by rw [Page.readEvents]
    | quote => exact turns_page_quote he hafter
    | table => exact turns_page_table he hafter
    | list start =>
      cases start with
      | none => exact turns_page_list he hafter
      | some n =>
        exact turns_page_skip he hafter (fun _ => by simp [pageTurn])
          fun es => by simp [Page.readEvents]
    | _ =>
      exact turns_page_skip he hafter (fun _ => by simp [pageTurn])
        fun es => by simp [Page.readEvents]
  | _ =>
    exact turns_page_again read he (fun _ _ => by simp [pageTurn]) (Nat.lt_succ_self i)
      (lt_of_event he) (by simp [Page.readEvents])

end Pages

/-! ## All loops -/

/-- A turn of any loop goes well if loops run well further on. -/
theorem turns_of_runAfter (he : events[i]? = some e) (hafter : RunAfter file events n i)
    (loop : Loop k) : Turns file events (n + 1) loop e i := by
  cases loop with
  | line style text => exact (turns_line he hafter style text).mono (Nat.le_succ n)
  | finish tag => exact turns_finish he tag
  | skip depth => exact turns_skip he depth
  | table rows row => exact (turns_table he hafter rows row).mono (Nat.le_succ n)
  | list blocks om => exact (turns_list he hafter blocks om).mono (Nat.le_succ n)
  | item text blocks om => exact turns_item he hafter text blocks om
  | group ends nodes om => exact turns_group he hafter ends nodes om
  | page read => exact turns_page he hafter read

/-- **Every loop runs well**, wherever it starts. -/
theorem runs (file : Nat) (events : List Located) (i : Nat) (hi : i ≤ events.length) :
    ∀ (k : Kind) (loop : Loop k), Runs file events (2 * (events.length - i) + 2) loop i := by
  -- the induction is on what is left, since the loops inside a turn start further on
  induction hleft : events.length - i using Nat.strongRecOn generalizing i with
  | ind left ih =>
    have hafter : RunAfter file events (2 * left) i := by
      intro j hij hj k loop
      exact (ih (events.length - j) (by omega) j hj rfl k loop).mono (by omega)
    intro k loop
    exact runs_of_turns hi (fun _ he => turns_of_runAfter he hafter loop)
      fun j hij hj k loop => (hafter j hij hj k loop).mono (Nat.le_succ _)

theorem runAfter (file : Nat) (events : List Located) (i : Nat) :
    RunAfter file events (2 * (events.length - i)) i :=
  fun j hij hj k loop => (runs file events j hj k loop).mono (by omega)

end Loop

/-- **The reader always makes progress**, whether the events are well nested or not.  Every loop,
wherever it starts, ends with what the readers of the page give there, and its cursor is neither
before where it was nor after the events.  So does every turn, and it moves the cursor on, unless it
leaves a line.  The loop of the page ends where the events do.  Fuel for two turns an event is
enough, and for two more where the events end. -/
theorem cursor_moves_on (file : Nat) (events : List Located) :
    (∀ (k : Kind) (loop : Loop k) (i : Nat), i ≤ events.length →
      ∃ r j, (∀ fuel, 2 * (events.length - i) + 2 ≤ fuel →
          loop.run file events fuel i = some (r, j)) ∧
        i ≤ j ∧ j ≤ events.length ∧ loop.Reads file (events.drop i) r (events.drop j)) ∧
    (∀ (k : Kind) (loop : Loop k) (i : Nat) (e : Located), events[i]? = some e →
      ∃ t j, (∀ fuel, 2 * (events.length - i) + 1 ≤ fuel →
          loop.turn file events (Loop.run file events fuel) e i = some (t, j)) ∧
        i ≤ j ∧ j ≤ events.length ∧ (i < j ∨ k = .line ∧ t = .leave)) ∧
    ∀ (read : Page) (fuel : Nat), 2 * events.length + 2 ≤ fuel →
      (Loop.page read).run file events fuel 0
        = some (Page.readEvents file read events, events.length) := by
  refine ⟨fun k loop i hi => Loop.runs file events i hi k loop, ?_, ?_⟩
  · intro k loop i e he
    cases Loop.turns_of_runAfter he (Loop.runAfter file events i) loop with
    | again next j hturn hlt hle _ =>
      exact ⟨.again next, j, hturn, Nat.le_of_lt hlt, hle, .inl hlt⟩
    | leave j hturn hij hle hlt _ =>
      refine ⟨.leave, j, hturn, hij, hle, ?_⟩
      by_cases hk : k = .line
      · exact .inr ⟨hk, rfl⟩
      · exact .inl (hlt hk)
  · intro read fuel hfuel
    obtain ⟨r, j, hrun, _, hj, hread, hnone⟩ :=
      Loop.runs file events 0 (Nat.zero_le _) _ (.page read)
    -- nothing is left, so the cursor is where the events end
    have hend : j = events.length := Nat.le_antisymm hj (List.drop_eq_nil_iff.1 hnone)
    rw [hrun fuel hfuel, hend, ← hread]
    rfl

/-- A list that does not end, in whose item ends stand that belong to nothing. -/
def strayEnds : List Located :=
  [(.start (.list none), ⟨0, 9⟩), (.start .item, ⟨0, 9⟩), (.finish .link, ⟨2, 3⟩),
    (.text "a".toList, ⟨3, 4⟩), (.finish .quote, ⟨4, 5⟩), (.start (.link "b".toList), ⟨5, 8⟩),
    (.code "c".toList, ⟨6, 7⟩), (.finish .item, ⟨0, 9⟩)]

/-- The item gets past the end of a link, which is no text, and the page to the end. -/
theorem cursor_moves_on_strayEnds :
    strayEnds[2]? = some (.finish .link, ⟨2, 3⟩) ∧
    (∃ t j, (Loop.item [] [] []).turn 0 strayEnds (Loop.run 0 strayEnds 13)
        (.finish .link, ⟨2, 3⟩) 2 = some (t, j) ∧ 2 < j ∧ j ≤ 8) ∧
    (∃ r j, (Loop.line .label []).run 0 strayEnds 14 2 = some (r, j) ∧ 2 ≤ j ∧ j ≤ 8) ∧
    (Loop.page ⟨[], []⟩).run 0 strayEnds 18 0 = some (⟨[.bullet "a c".toList], []⟩, 8) := by
  have hread : Page.readEvents 0 ⟨[], []⟩ strayEnds = ⟨[.bullet "a c".toList], []⟩ := by
    with_unfolding_all rfl
  obtain ⟨hruns, hturns, hpage⟩ := cursor_moves_on 0 strayEnds
  refine ⟨rfl, ?_, ?_, ?_⟩
  · obtain ⟨t, j, hturn, -, hj, hlt | ⟨hk, -⟩⟩ := hturns _ (.item [] [] []) 2 _ rfl
    · exact ⟨t, j, hturn 13 (by decide), hlt, hj⟩
    · cases hk
  · obtain ⟨r, j, hrun, hij, hj, -⟩ := hruns _ (.line .label []) 2 (by decide)
    exact ⟨r, j, hrun 14 (by decide), hij, hj⟩
  · rw [hpage ⟨[], []⟩ 18 (by decide), hread]
    rfl

end Scenarist.Reading
