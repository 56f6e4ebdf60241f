/-
  Marked text — a text whose characters know where they come from.

  1. **Flattening** — a marked text is flattened as a text is, and its characters keep their marks.
     Without marks it is the flat text (`bare_flatten`), and its lines are the lines of that
     (`map_bare_lines`).

  2. **Order** — `Orderly R` reads a marked text once and compares each source that shows something with
     the one before it on the same line.  If `R` is transitive, that settles it for all sources that
     share a line (`orderly_none_iff`).

  3. **Order stays** — trimming, collapsing line breaks and indenting take away or put in blanks only,
     and never the last break between two characters that are not blank.  So the sources that share a
     line are in order after flattening just when they were before (`orderly_flatten`).
-/
import Mathlib.Data.List.Pairwise
import Scenarist.Page.RichText
import Scenarist.Proofs.Text.Split
import Scenarist.Proofs.Text.Trim

namespace Scenarist

/-- A character, and its source if it has one. -/
abbrev Marked (α : Type) := Char × Option α

namespace Marked

variable {α : Type} {R : α → α → Prop} {s : Option α} {x : Marked α} {m : List (Marked α)}

/-! ## Marked texts -/

/-- A text whose characters all have one source, or all have none. -/
def mark (source : Option α) (t : Text) : List (Marked α) := t.map fun c => (c, source)

/-- A marked text without its marks. -/
def bare (m : List (Marked α)) : Text := m.map Prod.fst

/-- Whether a character is a line break. -/
def isBreak (x : Marked α) : Bool := x.1 == '\n'

/-- Whether a character is blank. -/
def isBlank (x : Marked α) : Bool := Text.isBlank x.1

/-- The lines of a marked text. -/
def lines (m : List (Marked α)) : List (List (Marked α)) := m.splitOnP isBreak

/-- The first line of a marked text. -/
def firstLine (m : List (Marked α)) : List (Marked α) := m.takeWhile fun x => !isBreak x

/-- The sources of the characters that are not blank. -/
def shown (line : List (Marked α)) : List α := line.filterMap fun x => if isBlank x then none else x.2

@[simp] theorem bare_mark (source : Option α) (t : Text) : bare (mark source t) = t := by
  simp [bare, mark, Function.comp_def]

@[simp] theorem bare_append (m n : List (Marked α)) : bare (m ++ n) = bare m ++ bare n :=
  List.map_append

theorem mark_append (source : Option α) (t u : Text) :
    mark source (t ++ u) = mark source t ++ mark source u := List.map_append

theorem source_mark {source : Option α} {t : Text} (h : x ∈ mark source t) : x.2 = source := by
  obtain ⟨c, -, rfl⟩ := List.mem_map.1 h
  rfl

theorem mem_shown {a : α} (h : a ∈ shown m) : ∃ x ∈ m, a ∈ x.2 := by
  obtain ⟨x, hx, ha⟩ := List.mem_filterMap.1 h
  split at ha
  · cases ha
  · exact ⟨x, hx, ha⟩

theorem shown_cons_none (h : isBlank x = true ∨ x.2 = none) : shown (x :: m) = shown m := by
  rcases h with h | h
  · simp [shown, h]
  · simp [shown, h]

theorem shown_cons_some {b : α} (h : isBlank x = false) (hx : x.2 = some b) :
    shown (x :: m) = b :: shown m := by
  simp [shown, h, hx]

theorem isBlank_of_isBreak (h : isBreak x = true) : isBlank x = true := by
  have hx : x.1 = '\n' := by simpa [isBreak] using h
  rw [isBlank, hx]
  decide

/-! ## Lines -/

theorem firstLine_break (h : isBreak x = true) (m : List (Marked α)) : firstLine (x :: m) = [] :=
  List.takeWhile_cons_of_neg (by simp [h])

theorem firstLine_cons (h : isBreak x = false) (m : List (Marked α)) :
    firstLine (x :: m) = x :: firstLine m := List.takeWhile_cons_of_pos (by simp [h])

theorem lines_nil : lines ([] : List (Marked α)) = [[]] := List.splitOnP_nil

theorem lines_break (h : isBreak x = true) (m : List (Marked α)) : lines (x :: m) = [] :: lines m := by
  rw [lines, List.splitOnP_cons_eq_if_modifyHead, if_pos h]
  rfl

theorem lines_goes_on (h : isBreak x = false) (m : List (Marked α)) :
    lines (x :: m) = (lines m).modifyHead (x :: ·) := by
  rw [lines, List.splitOnP_cons_eq_if_modifyHead, h, if_neg Bool.false_ne_true]
  rfl

/-- The first line stands in front of the others. -/
theorem lines_eq (m : List (Marked α)) : lines m = firstLine m :: (lines m).tail := by
  induction m with
  | nil =>
    rw [lines_nil]
    rfl
  | cons x m ih =>
    cases hx : isBreak x with
    | true => rw [lines_break hx, firstLine_break hx, List.tail_cons]
    | false =>
      rw [lines_goes_on hx, firstLine_cons hx, ih]
      rfl

theorem lines_cons (h : isBreak x = false) (m : List (Marked α)) :
    lines (x :: m) = (x :: firstLine m) :: (lines m).tail := by
  rw [lines_goes_on h, lines_eq m]
  rfl

/-- **The lines of a marked text** are the lines of the text. -/
theorem map_bare_lines (m : List (Marked α)) : (lines m).map bare = Text.lines (bare m) := by
  induction m with
  | nil =>
    rw [lines_nil]
    rfl
  | cons x m ih =>
    show _ = Text.splitWhere (· == '\n') (x.1 :: bare m)
    have ih : (lines m).map bare = Text.splitWhere (· == '\n') (bare m) := ih
    cases hx : isBreak x with
    | true =>
      have hcut : (x.1 == '\n') = true := hx
      rw [lines_break hx, List.map_cons, ih, Text.splitWhere, if_pos hcut]
      rfl
    | false =>
      have hcut : ¬ (x.1 == '\n') = true := by
        rw [show (x.1 == '\n') = false from hx]
        exact Bool.false_ne_true
      rw [lines_eq m, List.map_cons] at ih
      rw [lines_cons hx, Text.splitWhere, ← ih, if_neg hcut]
      rfl

theorem bare_firstLine (m : List (Marked α)) :
    bare (firstLine m) = (bare m).takeWhile fun c => !(c == '\n') := by
  rw [bare, bare, List.takeWhile_map]
  rfl

/-! ## Flattening -/

/-- A marked text without the blanks at its ends. -/
def trim (m : List (Marked α)) : List (Marked α) :=
  ((m.dropWhile isBlank).reverse.dropWhile isBlank).reverse

/-- Every run of line breaks reduced to its last one. -/
def collapse : List (Marked α) → List (Marked α)
  | [] => []
  | x :: m => if isBreak x && m.head?.any isBreak then collapse m else x :: collapse m

/-- Two spaces without a source after every line break. -/
def indent (m : List (Marked α)) : List (Marked α) :=
  m.flatMap fun x => if isBreak x then [x, (' ', none), (' ', none)] else [x]

/-- The flat form of a marked text. -/
def flatten (m : List (Marked α)) : List (Marked α) := indent (collapse (trim m))

theorem bare_dropWhile (m : List (Marked α)) :
    bare (m.dropWhile isBlank) = (bare m).dropWhile Text.isBlank := by
  rw [bare, bare, List.dropWhile_map]
  rfl

theorem bare_trim (m : List (Marked α)) : bare (trim m) = Text.trim (bare m) := by
  have hreverse : ∀ m : List (Marked α), bare m.reverse = (bare m).reverse := fun m => List.map_reverse
  rw [trim, hreverse, bare_dropWhile, hreverse, bare_dropWhile]
  rfl

theorem bare_collapse (m : List (Marked α)) :
    bare (collapse m) = RichText.collapseBreaks (bare m) := by
  induction m with
  | nil => rfl
  | cons x m ih =>
    have hnext : ((bare m).head? == some '\n') = m.head?.any isBreak := by
      cases m with
      | nil => rfl
      | cons y m => rfl
    show _ = RichText.collapseBreaks (x.1 :: bare m)
    rw [collapse, RichText.collapseBreaks, hnext, ← ih]
    by_cases hx : x.1 = '\n' <;> by_cases hm : m.head?.any isBreak = true <;>
      simp [isBreak, hx, hm, bare]

theorem bare_indent (m : List (Marked α)) : bare (indent m) = RichText.indentBreaks (bare m) := by
  induction m with
  | nil => rfl
  | cons x m ih =>
    show bare ((if isBreak x then [x, (' ', none), (' ', none)] else [x]) ++ indent m)
      = (if x.1 = '\n' then ['\n', ' ', ' '] else [x.1]) ++ RichText.indentBreaks (bare m)
    rw [bare_append, ih]
    by_cases hx : x.1 = '\n' <;> simp [isBreak, hx, bare]

/-- **Without marks** a flattened text is the flat text. -/
theorem bare_flatten (m : List (Marked α)) :
    bare (flatten m) = RichText.indentBreaks (RichText.collapseBreaks (Text.trim (bare m))) := by
  rw [flatten, bare_indent, bare_collapse, bare_trim]

/-! ## Order -/

/-- The source that a line shows last, after one more character. -/
def shownAfter (s : Option α) (x : Marked α) : Option α :=
  if isBreak x then none else if isBlank x then s else x.2.or s

/-- Whether every source stands in the relation to the one shown before it on its line; `s` is the one
that the first line has shown before. -/
def Orderly (R : α → α → Prop) (s : Option α) : List (Marked α) → Prop
  | [] => True
  | x :: m =>
      (isBlank x = false → ∀ a ∈ s, ∀ b ∈ x.2, R a b) ∧ Orderly R (shownAfter s x) m

/-- What a line shows last was shown before, or it is the source of the new character. -/
theorem mem_shownAfter {a : α} (h : a ∈ shownAfter s x) : a ∈ s ∨ a ∈ x.2 := by
  unfold shownAfter at h
  split at h
  · cases h
  · split at h
    · exact .inl h
    · cases hx : x.2 with
      | none =>
        rw [hx] at h
        exact .inl h
      | some b =>
        rw [hx] at h
        exact .inr h

/-- After a text of one source, a line shows last what it showed before, or that source. -/
theorem mem_foldl_mark {a : α} {owner : Option α} {t : Text}
    (h : a ∈ (mark owner t).foldl shownAfter s) : a ∈ s ∨ a ∈ owner := by
  induction t generalizing s with
  | nil => exact .inl h
  | cons c t ih =>
    rcases ih h with h | h
    · exact mem_shownAfter h
    · exact .inr h

/-- After a break, nothing is shown yet. -/
theorem foldl_break (s : Option α) (m : List (Marked α)) (owner : Option α) :
    (m ++ mark owner ['\n']).foldl shownAfter s = none := by
  rw [List.foldl_append]
  rfl

theorem orderly_append (s : Option α) (m n : List (Marked α)) :
    Orderly R s (m ++ n) ↔ Orderly R s m ∧ Orderly R (m.foldl shownAfter s) n := by
  induction m generalizing s with
  | nil => simp [Orderly]
  | cons x m ih => rw [List.cons_append, Orderly, ih, Orderly, List.foldl_cons, and_assoc]

/-- Blanks are in order wherever they stand. -/
theorem orderly_blanks (h : ∀ x ∈ m, isBlank x = true) (s : Option α) : Orderly R s m := by
  induction m generalizing s with
  | nil => trivial
  | cons x m ih =>
    obtain ⟨hx, hm⟩ := List.forall_mem_cons.1 h
    refine ⟨fun hshown => ?_, ih hm _⟩
    rw [hx] at hshown
    cases hshown

theorem orderly_newline (owner s : Option α) : Orderly R s (mark owner ['\n']) :=
  orderly_blanks (List.forall_mem_singleton.2 rfl) s

/-- A text of one source is in order, if the source may come after itself and after what is shown. -/
theorem orderly_mark {owner : Option α} (hself : ∀ b ∈ owner, R b b)
    (h : ∀ a ∈ s, ∀ b ∈ owner, R a b) (t : Text) : Orderly R s (mark owner t) := by
  induction t generalizing s with
  | nil => trivial
  | cons c t ih =>
    refine ⟨fun _ => h, ih fun a ha b hb => ?_⟩
    rcases mem_shownAfter ha with ha | ha
    · exact h a ha b hb
    · cases Option.mem_unique ha hb
      exact hself a ha

theorem orderly_break (h : isBreak x = true) (s : Option α) (m : List (Marked α)) :
    Orderly R s (x :: m) ↔ Orderly R none m := by
  rw [Orderly, shownAfter, if_pos h, isBlank_of_isBreak h]
  simp

theorem orderly_blank (hx : isBlank x = true) (hbreak : isBreak x = false) (s : Option α)
    (m : List (Marked α)) : Orderly R s (x :: m) ↔ Orderly R s m := by
  rw [Orderly, shownAfter, hbreak, if_neg Bool.false_ne_true, if_pos hx, hx]
  simp

/-- A source that comes after what was shown last comes after all that was shown. -/
theorem pairwise_behind (hR : ∀ a b c, R a b → R b c → R a c) (s : Option α) (b : α) (l : List α) :
    (s.toList ++ b :: l).Pairwise R ↔ (∀ a ∈ s, R a b) ∧ (b :: l).Pairwise R := by
  cases s with
  | none => exact (and_iff_right (by rintro _ ⟨⟩)).symm
  | some a =>
    show (a :: b :: l).Pairwise R ↔ _
    constructor
    · intro h
      obtain ⟨ha, hl⟩ := List.pairwise_cons.1 h
      refine ⟨?_, hl⟩
      rintro _ ⟨⟩
      exact ha b List.mem_cons_self
    · rintro ⟨hab, hl⟩
      have hb := (List.pairwise_cons.1 hl).1
      have hall : ∀ c ∈ b :: l, R a c :=
        List.forall_mem_cons.2 ⟨hab a rfl, fun c hc => hR a b c (hab a rfl) (hb c hc)⟩
      exact List.pairwise_cons.2 ⟨hall, hl⟩

/-- **Neighbours settle it.**  If the relation is transitive, then each source on a line stands in it to
all that come later on the line. -/
theorem orderly_iff (hR : ∀ a b c, R a b → R b c → R a c) (s : Option α) (m : List (Marked α)) :
    Orderly R s m ↔ (s.toList ++ shown (firstLine m)).Pairwise R ∧
      ∀ line ∈ (lines m).tail, (shown line).Pairwise R := by
  have halone : ∀ s : Option α, (s.toList ++ []).Pairwise R := by
    intro s
    cases s <;> simp
  induction m generalizing s with
  | nil => exact iff_of_true trivial ⟨halone s, by simp [lines_nil]⟩
  | cons x m ih =>
    cases hbreak : isBreak x with
    | true =>
      rw [orderly_break hbreak, lines_break hbreak, List.tail_cons, firstLine_break hbreak, lines_eq m,
        List.forall_mem_cons]
      exact (ih none).trans (and_iff_right (halone s)).symm
    | false =>
      rw [firstLine_cons hbreak, lines_cons hbreak, List.tail_cons]
      cases hblank : isBlank x with
      | true =>
        rw [orderly_blank hblank hbreak, shown_cons_none (.inl hblank)]
        exact ih s
      | false =>
        rw [Orderly, shownAfter, hbreak, if_neg Bool.false_ne_true, hblank, if_neg Bool.false_ne_true]
        refine (and_congr_right fun _ => ih (x.2.or s)).trans ?_
        cases hsource : x.2 with
        | none =>
          rw [shown_cons_none (.inr hsource)]
          exact and_iff_right fun _ _ _ _ hb => nomatch hb
        | some b =>
          have hfirst : (false = false → ∀ a ∈ s, ∀ c ∈ some b, R a c) ↔ ∀ a ∈ s, R a b := by simp
          rw [shown_cons_some hblank hsource, pairwise_behind hR, hfirst, and_assoc]
          rfl

theorem orderly_none_iff (hR : ∀ a b c, R a b → R b c → R a c) (m : List (Marked α)) :
    Orderly R none m ↔ ∀ line ∈ lines m, (shown line).Pairwise R := by
  rw [orderly_iff hR, lines_eq m, List.forall_mem_cons]
  rfl

/-- What the line has shown before matters for the first line only. -/
theorem orderly_some_iff (hR : ∀ a b c, R a b → R b c → R a c) (a : α) (m : List (Marked α)) :
    Orderly R (some a) m ↔ (∀ b ∈ shown (firstLine m), R a b) ∧ Orderly R none m := by
  rw [orderly_iff hR (some a), orderly_iff hR none]
  show (a :: shown (firstLine m)).Pairwise R ∧ _ ↔ _ ∧ (shown (firstLine m)).Pairwise R ∧ _
  rw [List.pairwise_cons, and_assoc]

/-- A text that has sources shows none just when it is blank. -/
theorem shown_eq_nil_iff (h : ∀ x ∈ m, x.2 ≠ none) : shown m = [] ↔ Text.trim (bare m) = [] := by
  rw [Text.trim_eq_nil_iff, shown, List.filterMap_eq_nil_iff, bare, List.forall_mem_map]
  refine forall₂_congr fun x hx => ?_
  show (if isBlank x then none else x.2) = none ↔ isBlank x = true
  cases hblank : isBlank x with
  | true => simp
  | false => simpa using h x hx

/-! ## Order stays -/

theorem orderly_dropWhile (m : List (Marked α)) :
    Orderly R none (m.dropWhile isBlank) ↔ Orderly R none m := by
  induction m with
  | nil => rfl
  | cons x m ih =>
    cases hx : isBlank x with
    | false => rw [List.dropWhile_cons_of_neg (by simp [hx])]
    | true =>
      rw [List.dropWhile_cons_of_pos hx, ih]
      cases hbreak : isBreak x with
      | true => rw [orderly_break hbreak]
      | false => rw [orderly_blank hx hbreak]

theorem orderly_trim (m : List (Marked α)) : Orderly R none (trim m) ↔ Orderly R none m := by
  rw [← orderly_dropWhile m]
  generalize hstart : m.dropWhile isBlank = n
  have hsplit : n = trim m ++ (n.reverse.takeWhile isBlank).reverse := by
    rw [trim, hstart, ← List.reverse_append, List.takeWhile_append_dropWhile, List.reverse_reverse]
  have hblank : ∀ x ∈ (n.reverse.takeWhile isBlank).reverse, isBlank x = true := by
    intro x hx
    exact List.mem_takeWhile_imp (List.mem_reverse.1 hx)
  have happend := orderly_append (R := R) none (trim m) (n.reverse.takeWhile isBlank).reverse
  rw [← hsplit] at happend
  rw [happend]
  exact ⟨fun h => ⟨h, orderly_blanks hblank _⟩, And.left⟩

theorem orderly_collapse (s : Option α) (m : List (Marked α)) :
    Orderly R s (collapse m) ↔ Orderly R s m := by
  induction m generalizing s with
  | nil => rfl
  | cons x m ih =>
    rw [collapse]
    split
    · next h =>
      -- the next character is a break as well, so it makes no difference what the line has shown
      obtain ⟨hx, hnext⟩ : isBreak x = true ∧ m.head?.any isBreak = true := by simpa using h
      rw [ih, orderly_break hx]
      cases m with
      | nil => cases hnext
      | cons y m =>
        have hy : isBreak y = true := hnext
        rw [orderly_break hy, orderly_break hy]
    · rw [Orderly, Orderly, ih]

theorem orderly_indent (s : Option α) (m : List (Marked α)) :
    Orderly R s (indent m) ↔ Orderly R s m := by
  induction m generalizing s with
  | nil => rfl
  | cons x m ih =>
    have hspace : ∀ (s : Option α) (n : List (Marked α)),
        Orderly R s ((' ', none) :: n) ↔ Orderly R s n := fun s n => orderly_blank rfl rfl s n
    show Orderly R s ((if isBreak x then [x, (' ', none), (' ', none)] else [x]) ++ indent m) ↔ _
    split
    · next hx =>
      show Orderly R s (x :: (' ', none) :: (' ', none) :: indent m) ↔ _
      rw [orderly_break hx, hspace, hspace, ih, orderly_break hx]
    · show Orderly R s (x :: indent m) ↔ _
      rw [Orderly, Orderly, ih]

/-- **Flattening keeps the order** on lines. -/
theorem orderly_flatten (m : List (Marked α)) : Orderly R none (flatten m) ↔ Orderly R none m := by
  rw [flatten, orderly_indent, orderly_collapse, orderly_trim]

end Marked

end Scenarist
