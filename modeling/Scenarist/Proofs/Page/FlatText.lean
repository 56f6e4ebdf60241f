/-
  Flat text — the form that every quote has once it is the text of a comment.

  1. **The form (`IsFlat`)** — a flat text is trimmed, no two of its line breaks stand together, and
     after each there are two spaces.  What stands after the spaces is no line break either, so the two
     spaces are never all of a line.

  2. **How `flatten` comes to it** — trimming goes first and settles both ends.  `collapseBreaks` then
     keeps the ends and leaves no line break next to another; `indentBreaks` keeps the ends as well and
     puts its spaces between a line break and what came after it.
-/
import Mathlib.Data.List.Chain
import Scenarist.Page.RichText
import Scenarist.Proofs.Text.Trim

namespace Scenarist.RichText

variable {c : Char} {t before after : Text}

/-- The form of the text of a comment. -/
structure IsFlat (t : Text) : Prop where
  /-- There are no blanks at the ends. -/
  trimmed : Text.Trimmed t
  /-- No two line breaks stand together. -/
  single : ¬ ['\n', '\n'] <:+: t
  /-- After a line break come two spaces, and then something other than a line break. -/
  indented : ∀ before after, t = before ++ '\n' :: after →
    ∃ line, after = ' ' :: ' ' :: line ∧ line.head? ≠ some '\n'

/-! ## Runs of line breaks -/

theorem head?_collapseBreaks (t : Text) : (collapseBreaks t).head? = t.head? := by
  induction t with
  | nil => rfl
  | cons c t ih =>
    unfold collapseBreaks
    split
    · next h =>
      obtain ⟨rfl, hnext⟩ : c = '\n' ∧ t.head? = some '\n' := by simpa using h
      rw [ih, hnext]
      rfl
    · rfl

theorem getLast?_collapseBreaks (t : Text) : (collapseBreaks t).getLast? = t.getLast? := by
  induction t with
  | nil => rfl
  | cons c t ih =>
    unfold collapseBreaks
    split
    · next h =>
      obtain ⟨-, hnext⟩ : c = '\n' ∧ t.head? = some '\n' := by simpa using h
      rw [ih]
      cases t with
      | nil => cases hnext
      | cons d t => rw [List.getLast?_cons_cons]
    · rw [List.getLast?_cons, List.getLast?_cons, ih]

/-- Two characters are not both line breaks. -/
def NotBothBreaks (c d : Char) : Prop := ¬ (c = '\n' ∧ d = '\n')

theorem isChain_collapseBreaks (t : Text) : List.IsChain NotBothBreaks (collapseBreaks t) := by
  induction t with
  | nil => exact List.isChain_nil
  | cons c t ih =>
    unfold collapseBreaks
    split
    · exact ih
    · next h =>
      refine List.isChain_cons.2 ⟨fun d hd => ?_, ih⟩
      rw [head?_collapseBreaks] at hd
      rintro ⟨rfl, rfl⟩
      exact h (by simpa using hd)

/-! ## Two spaces after each -/

theorem indentBreaks_cons (c : Char) (t : Text) :
    indentBreaks (c :: t) = (if c = '\n' then ['\n', ' ', ' '] else [c]) ++ indentBreaks t := rfl

theorem head?_indentBreaks (t : Text) : (indentBreaks t).head? = t.head? := by
  cases t with
  | nil => rfl
  | cons c t =>
    rw [indentBreaks_cons]
    split
    · next h => rw [h]; rfl
    · rfl

theorem getLast?_indentBreaks (h : t.getLast? ≠ some '\n') :
    (indentBreaks t).getLast? = t.getLast? := by
  rcases List.eq_nil_or_concat t with rfl | ⟨init, c, rfl⟩
  · rfl
  · rw [List.concat_eq_append] at h ⊢
    have hc : c ≠ '\n' := by simpa using h
    have hlast : indentBreaks (init ++ [c]) = indentBreaks init ++ [c] := by
      simp [indentBreaks, hc]
    rw [hlast, List.getLast?_concat, List.getLast?_concat]

/-- A line break of the indented text is one of the text before. -/
theorem exists_of_indentBreaks (h : indentBreaks t = before ++ '\n' :: after) :
    ∃ u v, t = u ++ '\n' :: v ∧ after = ' ' :: ' ' :: indentBreaks v := by
  induction t generalizing before with
  | nil => exact absurd h.symm (List.append_ne_nil_of_right_ne_nil _ (List.cons_ne_nil _ _))
  | cons c t ih =>
    have hstep : ∀ u, indentBreaks t = u ++ '\n' :: after →
        ∃ u v, c :: t = u ++ '\n' :: v ∧ after = ' ' :: ' ' :: indentBreaks v := by
      intro u hu
      obtain ⟨u, v, rfl, hafter⟩ := ih hu
      exact ⟨c :: u, v, rfl, hafter⟩
    rw [indentBreaks_cons] at h
    by_cases hc : c = '\n'
    · subst hc
      rw [if_pos rfl] at h
      -- the line break is the one in front, or it comes after the two spaces
      match before, h with
      | [], h => exact ⟨[], t, rfl, ((List.cons.inj h).2).symm⟩
      | [_], h => simp at h
      | [_, _], h => simp at h
      | _ :: _ :: _ :: before, h =>
        obtain ⟨-, -, -, h⟩ : '\n' = _ ∧ ' ' = _ ∧ ' ' = _ ∧ indentBreaks t = before ++ '\n' :: after := by
          simpa using h
        exact hstep before h
    · rw [if_neg hc] at h
      cases before with
      | nil => exact absurd (List.cons.inj h).1 hc
      | cons d before => exact hstep before (List.cons.inj h).2

/-! ## Flat texts -/

/-- **Every quote becomes a flat text.** -/
theorem isFlat_flatten (nodes : RichText) : IsFlat (flatten nodes) := by
  have htrim := Text.trimmed_trim (RichNode.spellAll nodes)
  have hchain := isChain_collapseBreaks (Text.trim (RichNode.spellAll nodes))
  have hindented : ∀ before after, flatten nodes = before ++ '\n' :: after →
      ∃ line, after = ' ' :: ' ' :: line ∧ line.head? ≠ some '\n' := by
    intro before after h
    obtain ⟨u, v, hsplit, rfl⟩ := exists_of_indentBreaks h
    refine ⟨indentBreaks v, rfl, fun hv => ?_⟩
    rw [hsplit] at hchain
    rw [head?_indentBreaks] at hv
    exact (List.isChain_cons.1 hchain.right_of_append).1 _ hv ⟨rfl, rfl⟩
  refine ⟨⟨fun c hc => ?_, fun c hc => ?_⟩, ?_, hindented⟩
  · unfold flatten at hc
    rw [head?_indentBreaks, head?_collapseBreaks] at hc
    exact htrim.head c hc
  · have hlast : (collapseBreaks (Text.trim (RichNode.spellAll nodes))).getLast? ≠ some '\n' := by
      rw [getLast?_collapseBreaks]
      intro h
      exact absurd (htrim.last _ h) (by decide)
    unfold flatten at hc
    rw [getLast?_indentBreaks hlast, getLast?_collapseBreaks] at hc
    exact htrim.last c hc
  · rintro ⟨before, after, h⟩
    obtain ⟨line, hline, -⟩ := hindented before ('\n' :: after) (by rw [← h]; simp)
    cases hline

end Scenarist.RichText
