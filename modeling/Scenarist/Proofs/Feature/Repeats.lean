/-
  Repeats — which elements of a scenario are written, and what stands before each.

  1. **Dropping repeated tables.**  A table is only dropped when it equals the element kept last, so
     the element kept last always equals the last element read.  Hence `dropRepeats` may be cut at
     any place: what is kept of the rest depends on the element right before it and on nothing else.

  2. **Runs of bullets.**  A maximal run of bullets is kept whole, no other bullet comes to stand
     next to it, and it is written by itself: the header of its first bullet, then one row for each
     value.
-/
import Mathlib.Data.List.Chain
import Scenarist.Feature.Render
import Scenarist.Proofs.Text.Split

namespace Scenarist.Feature

variable {kept previous : Option Element} {e : Element} {es before run after : List Element}

/-! ## Dropping repeated tables -/

/-- What repeats the element kept last is that element once more. -/
theorem eq_of_repeats (h : repeats kept e = true) : kept = some e := by
  unfold repeats at h
  split at h
  · rw [LawfulBEq.eq_of_beq h]
  · cases h

theorem repeats_none (e : Element) : repeats none e = false := rfl

theorem repeats_bullet (kept : Option Element) (h : isBullet e = true) :
    repeats kept e = false := by
  by_cases hr : repeats kept e = true
  · cases e with
    | bullet header value => unfold repeats at hr; split at hr <;> simp_all
    | _ => nomatch h
  · exact Bool.eq_false_iff.2 hr

theorem repeats_after_bullet {k : Element} (e : Element) (h : isBullet k = true) :
    repeats (some k) e = false := by
  by_cases hr : repeats (some k) e = true
  · obtain rfl : k = e := Option.some.inj (eq_of_repeats hr)
    rw [repeats_bullet _ h] at hr
    cases hr
  · exact Bool.eq_false_iff.2 hr

theorem dropRepeatsAfter_cons_kept (es : List Element) (h : repeats kept e = false) :
    dropRepeatsAfter kept (e :: es) = e :: dropRepeatsAfter (some e) es := by
  simp [dropRepeatsAfter, h]

theorem dropRepeatsAfter_cons_dropped (es : List Element) (h : repeats kept e = true) :
    dropRepeatsAfter kept (e :: es) = dropRepeatsAfter kept es := by
  simp [dropRepeatsAfter, h]

theorem getLast?_cons_or (e : Element) (es : List Element) (kept : Option Element) :
    (e :: es).getLast?.or kept = es.getLast?.or (some e) := by
  cases h : es.getLast? <;> simp [List.getLast?_cons, h]

/-- **The element kept last is the last element read.** -/
theorem getLast?_dropRepeatsAfter (kept : Option Element) (es : List Element) :
    (dropRepeatsAfter kept es).getLast?.or kept = es.getLast?.or kept := by
  induction es generalizing kept with
  | nil => rfl
  | cons e es ih =>
    by_cases h : repeats kept e = true
    · rw [dropRepeatsAfter_cons_dropped es h, ih, eq_of_repeats h, getLast?_cons_or]
    · rw [dropRepeatsAfter_cons_kept es (Bool.eq_false_iff.2 h), getLast?_cons_or,
        getLast?_cons_or, ih]

/-- Dropping repeated tables may be cut anywhere. -/
theorem dropRepeatsAfter_append (kept : Option Element) (es fs : List Element) :
    dropRepeatsAfter kept (es ++ fs)
      = dropRepeatsAfter kept es ++ dropRepeatsAfter (es.getLast?.or kept) fs := by
  induction es generalizing kept with
  | nil => rfl
  | cons e es ih =>
    by_cases h : repeats kept e = true
    · rw [List.cons_append, dropRepeatsAfter_cons_dropped _ h, dropRepeatsAfter_cons_dropped _ h,
        ih, getLast?_cons_or, eq_of_repeats h]
    · have h' := Bool.eq_false_iff.2 h
      rw [List.cons_append, dropRepeatsAfter_cons_kept _ h', dropRepeatsAfter_cons_kept _ h', ih,
        getLast?_cons_or, List.cons_append]

/-- What is kept depends on the element before only through the first element. -/
theorem dropRepeatsAfter_eq_none (h : ∀ e ∈ es.head?, repeats kept e = false) :
    dropRepeatsAfter kept es = dropRepeatsAfter none es := by
  cases es with
  | nil => rfl
  | cons e es =>
    rw [dropRepeatsAfter_cons_kept es (h e rfl), dropRepeatsAfter_cons_kept es (repeats_none e)]

/-- The first element is always kept. -/
theorem head?_dropRepeats (es : List Element) : (dropRepeats es).head? = es.head? := by
  cases es with
  | nil => rfl
  | cons e es =>
    show (dropRepeatsAfter none (e :: es)).head? = _
    rw [dropRepeatsAfter_cons_kept es (repeats_none e)]
    rfl

/-- The last element read is the last one kept. -/
theorem getLast?_dropRepeats (es : List Element) : (dropRepeats es).getLast? = es.getLast? := by
  have h := getLast?_dropRepeatsAfter none es
  rwa [Option.or_none, Option.or_none] at h

/-- Neighbours that are kept were neighbours before: a relation between neighbours that does not
depend on repeated tables survives. -/
theorem isChain_dropRepeatsAfter {R : Element → Element → Prop} (kept : Option Element)
    (es : List Element) (h : List.IsChain R (kept.toList ++ es)) :
    List.IsChain R (kept.toList ++ dropRepeatsAfter kept es) := by
  induction es generalizing kept with
  | nil => exact h
  | cons e es ih =>
    have hrest : List.IsChain R (e :: es) := h.right_of_append
    by_cases hr : repeats kept e = true
    · rw [dropRepeatsAfter_cons_dropped es hr]
      refine ih kept ?_
      rw [eq_of_repeats hr]
      exact hrest
    · rw [dropRepeatsAfter_cons_kept es (Bool.eq_false_iff.2 hr)]
      refine List.isChain_append.2 ⟨h.left_of_append, ih (some e) hrest, ?_⟩
      intro x hx y hy
      exact (List.isChain_append.1 h).2.2 x hx y hy

theorem isChain_dropRepeats {R : Element → Element → Prop} (h : List.IsChain R es) :
    List.IsChain R (dropRepeats es) := isChain_dropRepeatsAfter none es h

/-- Nothing is kept that was not there. -/
theorem mem_of_mem_dropRepeatsAfter (h : e ∈ dropRepeatsAfter kept es) : e ∈ es := by
  induction es generalizing kept with
  | nil => exact h
  | cons d es ih =>
    rw [dropRepeatsAfter] at h
    split at h
    · exact List.mem_cons_of_mem d (ih h)
    · rcases List.mem_cons.1 h with rfl | h
      · exact List.mem_cons_self ..
      · exact List.mem_cons_of_mem d (ih h)

/-! ## The texts of elements -/

theorem elementTextsAfter_append (previous : Option Element) (es fs : List Element) :
    elementTextsAfter previous (es ++ fs)
      = elementTextsAfter previous es ++ elementTextsAfter (es.getLast?.or previous) fs := by
  induction es generalizing previous with
  | nil => rfl
  | cons e es ih =>
    rw [List.cons_append, elementTextsAfter, elementTextsAfter, ih, getLast?_cons_or,
      List.cons_append]

/-- The text of an element depends on the one before only when both are bullets. -/
theorem elementText_eq_none (h : previous.any isBullet = false ∨ isBullet e = false) :
    elementText previous e = elementText none e := by
  cases e with
  | bullet header value =>
    rcases h with h | h
    · simp [elementText, h]
    · cases h
  | _ => rfl

theorem elementTextsAfter_eq_none
    (h : previous.any isBullet = false ∨ ∀ e ∈ es.head?, isBullet e = false) :
    elementTextsAfter previous es = elementTextsAfter none es := by
  cases es with
  | nil => rfl
  | cons e es =>
    have he : previous.any isBullet = false ∨ isBullet e = false := h.imp id fun h => h e rfl
    rw [elementTextsAfter, elementTextsAfter, elementText_eq_none he]

/-! ## Runs of bullets -/

/-- `run` is a maximal run of bullets where it stands, between `before` and `after`. -/
structure MaximalRun (before run after : List Element) : Prop where
  /-- There is a bullet. -/
  nonempty : run ≠ []
  /-- There is nothing else. -/
  bullets : ∀ e ∈ run, isBullet e = true
  /-- No bullet stands right before it. -/
  starts : ∀ e ∈ before.getLast?, isBullet e = false
  /-- No bullet stands right after it. -/
  ends : ∀ e ∈ after.head?, isBullet e = false

/-- A row of a single cell: four spaces, and the cell between bars. -/
def cellRow (cell : Text) : Text := "    | ".toList ++ cell ++ " |".toList

theorem rowLine_singleton (cell : Text) : rowLine [cell] = cellRow cell := by
  rw [rowLine, row, List.intercalate_singleton]
  rfl

/-- The texts of a run of bullets that have one header: the header and the first value are one text. -/
def bulletTexts (header : Text) : List Text → List Text
  | [] => []
  | value :: values => (cellRow header ++ '\n' :: cellRow value) :: values.map cellRow

/-- Bullets are all kept, and nothing after them counts as a repetition of what was before. -/
theorem dropRepeatsAfter_run (hb : ∀ e ∈ run, isBullet e = true) (hne : run ≠ []) :
    dropRepeatsAfter kept (run ++ after) = run ++ dropRepeats after := by
  induction run generalizing kept with
  | nil => exact absurd rfl hne
  | cons e run ih =>
    have he : isBullet e = true := hb e (List.mem_cons_self ..)
    rw [List.cons_append, dropRepeatsAfter_cons_kept _ (repeats_bullet kept he), List.cons_append]
    cases run with
    | nil =>
      -- a bullet was kept last, which no table repeats
      rw [List.nil_append, List.nil_append,
        dropRepeatsAfter_eq_none fun a _ => repeats_after_bullet a he]
      rfl
    | cons e' run =>
      rw [ih (fun a ha => hb a (List.mem_cons_of_mem e ha)) (List.cons_ne_nil _ _)]

/-- **Runs stay apart.**  A maximal run of bullets is kept whole, and the elements around it are
what is kept of the elements before and after it. -/
theorem dropRepeats_run (h : MaximalRun before run after) :
    dropRepeats (before ++ run ++ after) = dropRepeats before ++ run ++ dropRepeats after := by
  unfold dropRepeats
  rw [List.append_assoc, dropRepeatsAfter_append, dropRepeatsAfter_run h.bullets h.nonempty,
    List.append_assoc]
  rfl

theorem MaximalRun.dropRepeats (h : MaximalRun before run after) :
    MaximalRun (dropRepeats before) run (dropRepeats after) where
  nonempty := h.nonempty
  bullets := h.bullets
  starts := by rw [getLast?_dropRepeats]; exact h.starts
  ends := by rw [head?_dropRepeats]; exact h.ends

theorem elementTextsAfter_bullets (header : Text) (values : List Text)
    (h : previous.any isBullet = true) :
    elementTextsAfter previous (values.map (Element.bullet header)) = values.map cellRow := by
  induction values generalizing previous with
  | nil => rfl
  | cons v values ih =>
    rw [List.map_cons, elementTextsAfter, ih rfl, elementText, if_pos h, rowLine_singleton]
    rfl

/-- A run under one header is written as that header and its values. -/
theorem elementTextsAfter_run (header : Text) (values : List Text)
    (h : previous.any isBullet = false) :
    elementTextsAfter previous (values.map (Element.bullet header)) = bulletTexts header values := by
  cases values with
  | nil => rfl
  | cons v values =>
    rw [List.map_cons, elementTextsAfter, elementTextsAfter_bullets header values rfl, elementText,
      if_neg (by rw [h]; decide), rowLine_singleton, rowLine_singleton, Text.unlines_cons_cons,
      Text.unlines_singleton]
    rfl

/-- The lines of a run: one header row, then one row for each value, in order. -/
theorem unlines_bulletTexts (header : Text) (values : List Text) (hne : values ≠ []) :
    Text.unlines (bulletTexts header values) = Text.unlines ((header :: values).map cellRow) := by
  cases values with
  | nil => exact absurd rfl hne
  | cons v values =>
    rw [bulletTexts, List.map_cons, List.map_cons, Text.unlines_cons_cons]
    cases values with
    | nil => rw [List.map_nil, Text.unlines_singleton, Text.unlines_singleton]
    | cons w values =>
      rw [List.map_cons, Text.unlines_cons_cons, Text.unlines_cons_cons, List.append_assoc,
        List.cons_append]

/-- **A run is written by itself.** -/
theorem elementTexts_run {header : Text} {values : List Text}
    (h : MaximalRun before (values.map (Element.bullet header)) after) :
    elementTexts (before ++ values.map (Element.bullet header) ++ after)
      = elementTexts before ++ bulletTexts header values ++ elementTexts after := by
  unfold elementTexts
  rw [dropRepeats_run h, elementTextsAfter_append, elementTextsAfter_append,
    elementTextsAfter_run, elementTextsAfter_eq_none (Or.inr h.dropRepeats.ends)]
  cases hl : (dropRepeats before).getLast? with
  | none => rfl
  | some e => exact h.dropRepeats.starts e hl

end Scenarist.Feature
