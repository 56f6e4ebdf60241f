/-
  Search — where `cut?` finds a mark.

  1. A text holds a mark exactly when `cut?` finds it (`includes_iff`).

  2. A mark that starts with a line feed is found at the first line, after the first one, that starts
     with the rest of it.  So nothing within a line matters to it (`cut?_line`), and of the starts of
     the lines only those that stand before it (`cut?_unlines`).
-/
import Scenarist.Proofs.Text.Split

namespace Scenarist.Text

variable {mark t line : Text} {ls : List Text}

theorem isPrefixOf_eq_false (h : ¬ mark <+: t) : mark.isPrefixOf t = false :=
  Bool.eq_false_iff.2 (mt List.isPrefixOf_iff_prefix.1 h)

/-! ## Any mark -/

theorem after?_append (mark t : Text) : after? mark (mark ++ t) = some t := by
  rw [after?, if_pos (List.isPrefixOf_iff_prefix.2 (List.prefix_append mark t)), List.drop_left]

/-- A mark that a text starts with is cut out there. -/
theorem cut?_append (mark t : Text) : cut? mark (mark ++ t) = some ([], t) := by
  have hstart : mark.isPrefixOf (mark ++ t) = true :=
    List.isPrefixOf_iff_prefix.2 (List.prefix_append mark t)
  cases hmark : mark ++ t with
  | nil =>
    obtain ⟨rfl, rfl⟩ := List.append_eq_nil_iff.1 hmark
    rfl
  | cons c u =>
    rw [hmark] at hstart
    rw [cut?, if_pos hstart, ← hmark, List.drop_left]

/-- A mark is looked for further on if the text does not start with it. -/
theorem cut?_cons {c : Char} (h : ¬ mark <+: c :: t) :
    cut? mark (c :: t) = (cut? mark t).map fun (before, after) => (c :: before, after) := by
  rw [cut?, isPrefixOf_eq_false h, if_neg Bool.false_ne_true]

/-- **A text holds a mark exactly when it is found.** -/
theorem includes_iff : includes mark t = true ↔ mark <:+: t := by
  induction t with
  | nil => cases mark <;> simp [includes, cut?]
  | cons c t ih =>
    rw [List.infix_cons_iff, ← ih]
    by_cases h : mark <+: c :: t
    · rw [includes, cut?, if_pos (List.isPrefixOf_iff_prefix.2 h)]
      exact iff_of_true rfl (.inl h)
    · rw [includes, cut?_cons h, Option.isSome_map]
      exact (or_iff_right h).symm

theorem cut?_eq_none_iff : cut? mark t = none ↔ ¬ mark <:+: t := by
  rw [← includes_iff, includes, Bool.not_eq_true, Option.isSome_eq_false_iff, Option.isNone_iff_eq_none]

/-! ## Marks at the start of a line -/

/-- A mark at the start of a line is not found within one. -/
theorem cut?_line (hline : '\n' ∉ line) (mark t : Text) :
    cut? ('\n' :: mark) (line ++ t)
      = (cut? ('\n' :: mark) t).map fun (before, after) => (line ++ before, after) := by
  induction line with
  | nil =>
    simp
  | cons c line ih =>
    obtain ⟨hc, hline⟩ : '\n' ≠ c ∧ '\n' ∉ line := by simpa using hline
    have hstart : ¬ '\n' :: mark <+: c :: (line ++ t) := fun h => hc (List.cons_prefix_cons.1 h).1
    rw [List.cons_append, cut?_cons hstart, ih hline, Option.map_map]
    rfl

/-- A text starts with a mark just when what stands before a character that is not in the mark
does. -/
theorem prefix_append_cons_iff {c : Char} (hmark : c ∉ mark) (line t : Text) :
    mark <+: line ++ c :: t ↔ mark <+: line := by
  refine ⟨fun h => ?_, fun h => h.trans (List.prefix_append _ _)⟩
  induction mark generalizing line with
  | nil => exact List.nil_prefix
  | cons d mark ih =>
    obtain ⟨hd, hmark⟩ : c ≠ d ∧ c ∉ mark := by simpa using hmark
    cases line with
    | nil => exact absurd (List.cons_prefix_cons.1 h).1.symm hd
    | cons b line =>
      obtain ⟨rfl, hrest⟩ := List.cons_prefix_cons.1 h
      exact List.cons_prefix_cons.2 ⟨rfl, ih hmark line hrest⟩

/-- Joined lines start with a mark without line feeds just when the first line does. -/
theorem prefix_unlines_iff (hmark : '\n' ∉ mark) (l : Text) (ls : List Text) :
    mark <+: unlines (l :: ls) ↔ mark <+: l := by
  cases ls with
  | nil => rw [unlines, List.intercalate_singleton]
  | cons k ls => rw [unlines_cons_cons, prefix_append_cons_iff hmark]

/-- **The first line that starts with the mark.**  It is found there, if no line before it starts
with the mark; how the very first line starts makes no difference. -/
theorem cut?_unlines (hmark : '\n' ∉ mark) (hne : ls ≠ []) (hlines : ∀ l ∈ ls, '\n' ∉ l)
    (hstarts : ∀ l ∈ ls.tail, ¬ mark <+: l) (t : Text) :
    cut? ('\n' :: mark) (unlines ls ++ '\n' :: mark ++ t) = some (unlines ls, t) := by
  induction ls with
  | nil => exact absurd rfl hne
  | cons l ls ih =>
    obtain ⟨hl, hlines⟩ := List.forall_mem_cons.1 hlines
    cases ls with
    | nil =>
      rw [unlines, List.intercalate_singleton, List.append_assoc, cut?_line hl, cut?_append]
      simp
    | cons k ls =>
      obtain ⟨hk, hstarts⟩ := List.forall_mem_cons.1 hstarts
      have hnext : ¬ '\n' :: mark <+: '\n' :: (unlines (k :: ls) ++ '\n' :: mark ++ t) := by
        intro h
        have hstart := (List.cons_prefix_cons.1 h).2
        rw [List.append_assoc, List.cons_append, prefix_append_cons_iff hmark,
          prefix_unlines_iff hmark] at hstart
        exact hk hstart
      have hsplit : unlines (l :: k :: ls) ++ '\n' :: mark ++ t
          = l ++ '\n' :: (unlines (k :: ls) ++ '\n' :: mark ++ t) := by
        rw [unlines_cons_cons]
        simp
      rw [hsplit, cut?_line hl, cut?_cons hnext, ih (List.cons_ne_nil k ls) hlines hstarts,
        unlines_cons_cons]
      rfl

/-- A mark at the start of a line is not found exactly when no line but the first starts with it. -/
theorem cut?_eq_none_iff_lines (hmark : '\n' ∉ mark) (t : Text) :
    cut? ('\n' :: mark) t = none ↔ ∀ l ∈ (lines t).tail, ¬ mark <+: l := by
  rw [cut?_eq_none_iff]
  induction t with
  | nil => simp [lines, splitWhere]
  | cons c t ih =>
    obtain ⟨l, ls, hlines⟩ := List.exists_cons_of_ne_nil (lines_ne_nil t)
    rw [hlines, List.tail_cons] at ih
    by_cases hc : c = '\n'
    · subst hc
      have hfirst : mark <+: t ↔ mark <+: l := by
        rw [← prefix_unlines_iff hmark l ls, ← hlines, unlines_lines]
      have hcut : lines ('\n' :: t) = [] :: l :: ls := by
        rw [← hlines]
        exact lines_append_feed [] t
      rw [hcut, List.tail_cons, List.forall_mem_cons, List.infix_cons_iff, not_or, ih,
        List.cons_prefix_cons, hfirst]
      simp
    · have hcut : lines (c :: t) = (c :: l) :: ls := by
        have hc : ¬ (c == '\n') = true := by simpa using hc
        rw [lines] at hlines ⊢
        rw [splitWhere, if_neg hc, hlines]
      have hstart : ¬ '\n' :: mark <+: c :: t := fun h => hc (List.cons_prefix_cons.1 h).1.symm
      rw [hcut, List.tail_cons, List.infix_cons_iff, or_iff_right hstart, ih]

end Scenarist.Text
