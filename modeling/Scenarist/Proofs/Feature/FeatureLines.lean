/-
  Feature lines — what stands on the lines of a feature, told by its outline.

  1. **The layout** — `featureLines` lists the lines of an outline from top to bottom.  An element looks
     at the one right before it in its scenario and at nothing else: a table is left out if it is the
     same table once more, and a bullet has no header if the one before is a bullet.

  2. **Neighbours before and after** — the renderer first drops repeated tables and then looks at the
     neighbours that are left.  What it kept last is always the element it read last, so that is the
     same (`entryLines_dropRepeatsAfter`).

  3. **The end** — the last line is empty only if one of the texts of the outline ends in a line feed
     (`closed_featureLines`), so the renderer puts none at the end of its own.
-/
import Scenarist.Proofs.Feature.AlignedFeature
import Scenarist.Proofs.Feature.Entries
import Scenarist.Proofs.Feature.Repeats

namespace Scenarist.Feature

variable {o : Outline} {previous : Option Element} {e : Element} {es : List Element} {t : Text}
  {ls more : List Text}

/-! ## The layout -/

/-- The line of a row, or its lines if a cell has several: four spaces, and bars around and between
the cells. -/
def cellLines (cells : List Text) : List Text :=
  Text.lines ("    | ".toList ++ List.intercalate " | ".toList cells ++ " |".toList)

/-- The lines of an element that stands right after `previous` in its scenario. -/
def elementLines (previous : Option Element) : Element → List Text
  | .step text => Text.lines ("  ".toList ++ text)
  | .comment text => Text.lines ("  #".toList ++ text)
  | .table t => if previous = some (.table t) then [] else t.rows.flatMap cellLines
  | .bullet header value =>
      (if previous.any isBullet then [] else cellLines [header]) ++ cellLines [value]

/-- The lines of elements, the first of which stands right after `previous`. -/
def elementLinesAfter (previous : Option Element) : List Element → List Text
  | [] => []
  | e :: es => elementLines previous e ++ elementLinesAfter (some e) es

/-- The lines of a scenario, the first of which sets it off. -/
def scenarioLines (s : Scenario) : List Text :=
  [] :: Text.lines ("Scenario: ".toList ++ s.name) ++ elementLinesAfter none s.elements

/-- The lines of the background, if there is any. -/
def backgroundLines (steps : List Text) : List Text :=
  if steps = [] then []
  else [] :: "Background:".toList :: steps.flatMap fun step => Text.lines ("  ".toList ++ step)

/-- The lines of a feature. -/
def featureLines (o : Outline) : List Text :=
  Text.lines ("Feature: ".toList ++ o.title) ++ o.comments.flatMap Text.lines
    ++ backgroundLines o.background ++ o.scenarios.flatMap scenarioLines

/-- Whether an element is a table without rows. -/
def isRowless : Element → Bool
  | .table t => t.isEmpty
  | _ => false

/-- Whether every table of an outline has a row. -/
def TablesFilled (o : Outline) : Prop :=
  ∀ s ∈ o.scenarios, ∀ e ∈ s.elements, isRowless e = false

instance (o : Outline) : Decidable (TablesFilled o) :=
  inferInstanceAs (Decidable (∀ s ∈ o.scenarios, ∀ e ∈ s.elements, isRowless e = false))

/-! ## Neighbours -/

theorem lines_rowLine (cells : List Text) : Text.lines (rowLine cells) = cellLines cells := rfl

/-- The entries of an element that is kept have its lines. -/
theorem entryLines_elementEntries (hkept : repeats previous e = false)
    (hfilled : isRowless e = false) :
    entryLines (elementEntries previous e) = elementLines previous e := by
  cases e with
  | step text => exact List.append_nil _
  | comment text => exact List.append_nil _
  | table t =>
    have hnew : previous ≠ some (.table t) := by
      rintro rfl
      simp [repeats] at hkept
    have hrows : t.rows ≠ [] := List.isEmpty_eq_false_iff.1 hfilled
    rw [elementEntries, if_neg hrows, elementLines, if_neg hnew, entryLines_map]
    rfl
  | bullet header value =>
    rw [elementEntries, elementLines]
    split <;> simp [Entry.lines, Entry.text, lines_rowLine]

/-- **What is kept has the lines of all that was there.** -/
theorem entryLines_dropRepeatsAfter (hfilled : ∀ e ∈ es, isRowless e = false) :
    entryLines (elementEntriesAfter previous (dropRepeatsAfter previous es))
      = elementLinesAfter previous es := by
  induction es generalizing previous with
  | nil => rfl
  | cons e es ih =>
    obtain ⟨he, hes⟩ := List.forall_mem_cons.1 hfilled
    rw [elementLinesAfter]
    cases hr : repeats previous e with
    | true =>
      -- the table kept last is the one that is read once more
      obtain rfl := eq_of_repeats hr
      have hnone : elementLines (some e) e = [] := by
        cases e with
        | table t => exact if_pos rfl
        | _ => cases hr
      rw [dropRepeatsAfter_cons_dropped es hr, hnone, List.nil_append, ih hes]
    | false =>
      rw [dropRepeatsAfter_cons_kept es hr, elementEntriesAfter, entryLines_append,
        entryLines_elementEntries hr he, ih hes]

theorem entryLines_entries (hfilled : TablesFilled o) : entryLines (entries o) = featureLines o := by
  have hcomments : entryLines (o.comments.map .other) = o.comments.flatMap Text.lines :=
    entryLines_map ..
  have hbackground : entryLines (backgroundEntries o.background) = backgroundLines o.background := by
    rw [backgroundEntries, backgroundLines]
    split
    · rfl
    · rw [entryLines_append, entryLines_map]
      rfl
  have hscenarios :
      entryLines (o.scenarios.flatMap scenarioEntries) = o.scenarios.flatMap scenarioLines := by
    have hblank : Text.lines [] = [[]] := rfl
    rw [entryLines_flatMap]
    refine List.flatMap_congr fun s hs => ?_
    rw [scenarioEntries, entryLines_append, dropRepeats, entryLines_dropRepeatsAfter (hfilled s hs)]
    simp [scenarioLines, Entry.lines, Entry.text, hblank]
  rw [entries, entryLines_append, entryLines_append, entryLines_append, hcomments, hbackground,
    hscenarios, featureLines]
  simp [Entry.lines, Entry.text]

/-! ## The end -/

/-- Lines the last of which, if there is one, is not empty. -/
def Closed (ls : List Text) : Prop := ∀ l ∈ ls.getLast?, l ≠ []

theorem closed_nil : Closed [] := nofun

theorem closed_append (hmore : Closed more) (h : more = [] → Closed ls) : Closed (ls ++ more) := by
  cases hlast : more.getLast? with
  | none =>
    obtain rfl := List.getLast?_eq_none_iff.1 hlast
    rw [List.append_nil]
    exact h rfl
  | some l =>
    rw [Closed, hlast] at hmore
    rw [Closed, List.getLast?_append, hlast]
    exact hmore

theorem closed_cons {l : Text} (hmore : Closed more) (h : more = [] → l ≠ []) :
    Closed (l :: more) := by
  show Closed ([l] ++ more)
  refine closed_append hmore fun hnil k hk => ?_
  obtain rfl := Option.some.inj hk
  exact h hnil

theorem closed_flatMap {α : Type} {f : α → List Text} {xs : List α} (h : ∀ x ∈ xs, Closed (f x)) :
    Closed (xs.flatMap f) := by
  induction xs with
  | nil => exact closed_nil
  | cons x xs ih =>
    obtain ⟨hx, hxs⟩ := List.forall_mem_cons.1 h
    exact closed_append (ih hxs) fun _ => hx

/-- A text that ends in some other character than a line feed leaves no empty line at the end. -/
theorem closed_lines (hne : t ≠ []) (hlast : t.getLast? ≠ some '\n') : Closed (Text.lines t) := by
  induction t with
  | nil => exact absurd rfl hne
  | cons c t ih =>
    by_cases ht : t = []
    · subst ht
      have hc : '\n' ∉ [c] := by simpa [eq_comm] using hlast
      rw [Text.lines_eq_singleton hc]
      exact closed_cons closed_nil fun _ => hne
    · rw [List.getLast?_cons_of_ne_nil ht] at hlast
      have hrest : Closed (Text.lines t) := ih ht hlast
      by_cases hc : c = '\n'
      · rw [hc, lines_feed]
        exact closed_cons hrest fun hnil => absurd hnil (Text.lines_ne_nil t)
      · have hfeed : '\n' ∉ [c] := by simpa [eq_comm] using hc
        obtain ⟨first, rest, hlines, hfronted⟩ := lines_front hfeed t
        rw [hlines] at hrest
        have hlonger : Text.lines (c :: t) = (c :: first) :: rest := hfronted
        rw [hlonger]
        refine closed_cons (fun l hl => hrest l ?_) fun _ => List.cons_ne_nil c first
        simp [List.getLast?_cons, Option.mem_def.1 hl]

/-- What is put in front of a text without a line feed at its end leaves no empty line there. -/
theorem closed_fronted {front : Text} (hne : front ≠ []) (hfront : front.getLast? ≠ some '\n')
    (ht : t.getLast? ≠ some '\n') : Closed (Text.lines (front ++ t)) := by
  refine closed_lines (List.append_ne_nil_of_left_ne_nil hne t) ?_
  rw [List.getLast?_append]
  cases hlast : t.getLast? with
  | none => exact hfront
  | some c =>
    rw [hlast] at ht
    exact ht

theorem closed_cellLines (cells : List Text) : Closed (cellLines cells) := by
  refine closed_lines (by simp) ?_
  rw [List.getLast?_append]
  exact fun h => absurd (Option.some.inj h) (by decide)

theorem closed_elementLinesAfter
    (htexts : ∀ e ∈ es, ∀ t ∈ ownTexts e, t.getLast? ≠ some '\n') :
    Closed (elementLinesAfter previous es) := by
  induction es generalizing previous with
  | nil => exact closed_nil
  | cons e es ih =>
    obtain ⟨he, hes⟩ := List.forall_mem_cons.1 htexts
    refine closed_append (ih hes) fun _ => ?_
    cases e with
    | step text => exact closed_fronted (by decide) (by decide) (he text (List.mem_singleton_self _))
    | comment text =>
      exact closed_fronted (by decide) (by decide) (he text (List.mem_singleton_self _))
    | table t =>
      rw [elementLines]
      split
      · exact closed_nil
      · exact closed_flatMap fun cells _ => closed_cellLines cells
    | bullet header value =>
      exact closed_append (closed_cellLines [value]) fun hnil => absurd hnil (Text.lines_ne_nil _)

/-- **The end.**  The last line of a feature is not empty if no text of the outline ends in a line
feed. -/
theorem closed_featureLines (hvalid : o.isValid = true)
    (htexts : ∀ t ∈ texts o, t.getLast? ≠ some '\n') : Closed (featureLines o) := by
  obtain ⟨-, -, hbackground, hscenarios⟩ := forall_mem_texts_iff.1 htexts
  refine closed_append (closed_flatMap fun s hs => ?_) fun hnone => ?_
  · obtain ⟨hname, helements⟩ := hscenarios s hs
    refine closed_append (closed_elementLinesAfter helements) fun _ => ?_
    exact closed_cons (closed_fronted (by decide) (by decide) hname)
      fun hnil => absurd hnil (Text.lines_ne_nil _)
  · -- without scenarios a valid outline has background
    have hnone : o.scenarios = [] := by
      refine List.eq_nil_iff_forall_not_mem.2 fun s hs => ?_
      exact List.cons_ne_nil _ _ (List.flatMap_eq_nil_iff.1 hnone s hs)
    have hsome : o.background ≠ [] := by
      rintro hnil
      simp [Outline.isValid, hnone, hnil] at hvalid
    rw [backgroundLines, if_neg hsome]
    refine closed_append ?_ fun hnil => absurd hnil (List.cons_ne_nil _ _)
    refine closed_cons (closed_cons ?_ fun _ => by decide) fun hnil => absurd hnil (List.cons_ne_nil _ _)
    exact closed_flatMap fun step hstep =>
      closed_fronted (by decide) (by decide) (hbackground step hstep)

/-- A text whose last line is not empty does not end in a line feed. -/
theorem getLast?_of_closed (h : Closed (Text.lines t)) : t.getLast? ≠ some '\n' := by
  intro hlast
  obtain ⟨u, rfl⟩ := List.getLast?_eq_some_iff.1 hlast
  rw [Text.lines_append_feed] at h
  exact h [] (List.getLast?_concat ..) rfl

/-! ## Whole features -/

/-- **The lines of a feature.**  A valid outline whose tables have rows is written as exactly its lines,
with one line feed between each two of them and none at the end: a text that ends in a line feed has it
from a title, a comment, a step or a name that does. -/
theorem convert_writes_lines (hvalid : o.isValid = true) (hfilled : TablesFilled o) :
    ∃ text, convert (some o) = .ok text ∧
      Text.lines text = featureLines o ∧ text = Text.unlines (featureLines o) ∧
      ((∀ t ∈ texts o, t.getLast? ≠ some '\n') → text.getLast? ≠ some '\n') := by
  have hlines : Text.lines (compose o) = featureLines o := by
    rw [lines_compose, entryLines_entries hfilled]
  refine ⟨compose o, if_pos hvalid, hlines, ?_, fun htexts => ?_⟩
  · rw [← hlines, Text.unlines_lines]
  · refine getLast?_of_closed ?_
    rw [hlines]
    exact closed_featureLines hvalid htexts

/-- A feature with every part: a comment of two lines, a step of two lines, a table three times in a row
and once more later, and bullets of two lists next to each other. -/
def fullFeature : Outline :=
  let users := Table.ofRows [["name".toList, "age".toList], ["Ann".toList]]
  { title := "T".toList
    comments := ["  one\n  two".toList, "  three".toList]
    background := ["Given a".toList, "And b\nc".toList]
    scenarios :=
      [ { name := "S".toList
          elements :=
            [ .step "When x".toList, .table users, .table users, .table users,
              .bullet "Errors".toList "p".toList, .bullet "Notes".toList "q".toList,
              .comment " seen".toList, .table users, .bullet "Errors".toList "r".toList ] },
        { name := "Empty".toList } ] }

/-- The second and the third table are left out, the second bullet has no header, and the last one has
one again. -/
theorem convert_writes_lines_fullFeature :
    fullFeature.isValid = true ∧ TablesFilled fullFeature ∧
    (∃ text, convert (some fullFeature) = .ok text ∧
      Text.lines text =
        [ "Feature: T".toList, "  one".toList, "  two".toList, "  three".toList, [],
          "Background:".toList, "  Given a".toList, "  And b".toList, "c".toList, [],
          "Scenario: S".toList, "  When x".toList, "    | name | age |".toList,
          "    | Ann |  |".toList, "    | Errors |".toList, "    | p |".toList,
          "    | q |".toList, "  # seen".toList, "    | name | age |".toList,
          "    | Ann |  |".toList, "    | Errors |".toList, "    | r |".toList, [],
          "Scenario: Empty".toList ] ∧
      text.getLast? ≠ some '\n') := by
  have hvalid : fullFeature.isValid = true := by decide
  have hfilled : TablesFilled fullFeature := by decide +kernel
  obtain ⟨text, hconvert, hlines, -, hend⟩ := convert_writes_lines hvalid hfilled
  refine ⟨hvalid, hfilled, text, hconvert, ?_, hend (by decide +kernel)⟩
  rw [hlines]
  decide +kernel

end Scenarist.Feature
