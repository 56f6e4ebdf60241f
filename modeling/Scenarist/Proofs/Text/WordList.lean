/-
  Word lists — which words a text has, told without cutting it.

  1. `HasWords` reads a text from its start: blanks, then a word that goes on up to the next blank or to
     the end, and so on.

  2. Every text has words in that sense (`exists_hasWords`), and they are those that `words` gives
     (`hasWords_iff`).  In particular a text has them in one way only.
-/
import Scenarist.Proofs.Text.SameWords

namespace Scenarist.Text

variable {c : Char} {t : Text} {ws : List Text}

/-- The words of a text, in their order. -/
inductive HasWords : Text → List Text → Prop where
  /-- Blanks hold no word. -/
  | blanks {b : Text} (hb : ∀ c ∈ b, isBlank c = true) : HasWords b []
  /-- Behind some blanks a word begins, and a blank or the end of the text ends it. -/
  | word {b w rest : Text} {ws : List Text} (hb : ∀ c ∈ b, isBlank c = true) (hne : w ≠ [])
      (hw : ∀ c ∈ w, isBlank c = false) (hend : ∀ c ∈ rest.head?, isBlank c = true)
      (hrest : HasWords rest ws) : HasWords (b ++ w ++ rest) (w :: ws)

theorem words_eq_singleton {w : Text} (hne : w ≠ []) (hw : ∀ c ∈ w, isBlank c = false) :
    words w = [w] := by
  rw [words, splitWhere_eq_singleton hw]
  simpa using hne

/-- A word in front of a blank, or of nothing, is the first word. -/
theorem words_word_append {w rest : Text} (hne : w ≠ []) (hw : ∀ c ∈ w, isBlank c = false)
    (hend : ∀ c ∈ rest.head?, isBlank c = true) : words (w ++ rest) = w :: words rest := by
  cases rest with
  | nil =>
    rw [List.append_nil, words_eq_singleton hne hw]
    rfl
  | cons c rest =>
    have hc : isBlank c = true := hend c rfl
    have hrest : words (c :: rest) = words rest := words_append_cons hc [] rest
    rw [words_append_cons hc, words_eq_singleton hne hw, hrest]
    rfl

theorem HasWords.words_eq (h : HasWords t ws) : words t = ws := by
  induction h with
  | blanks hb =>
    have hnone := words_blank_append hb []
    rwa [List.append_nil] at hnone
  | word hb hne hw hend hrest ih =>
    rw [List.append_assoc, words_blank_append hb, words_word_append hne hw hend, ih]

/-- One more blank in front starts no word. -/
theorem HasWords.cons_blank (hc : isBlank c = true) (h : HasWords t ws) : HasWords (c :: t) ws := by
  cases h with
  | blanks hb => exact .blanks (List.forall_mem_cons.2 ⟨hc, hb⟩)
  | word hb hne hw hend hrest => exact .word (List.forall_mem_cons.2 ⟨hc, hb⟩) hne hw hend hrest

/-- One more letter in front is a word of its own, or it is the first letter of the first word. -/
theorem HasWords.exists_cons_letter (hc : isBlank c = false) (h : HasWords t ws) :
    ∃ us, HasWords (c :: t) us := by
  have hletter : ∀ d ∈ [c], isBlank d = false := by simpa using hc
  cases h with
  | blanks hb =>
    have hend : ∀ d ∈ t.head?, isBlank d = true := fun d hd => hb d (List.mem_of_mem_head? hd)
    exact ⟨_, .word (b := []) nofun (List.cons_ne_nil c []) hletter hend (.blanks hb)⟩
  | @word b w rest ws hb hne hw hend hrest =>
    cases b with
    | nil =>
      have hword : ∀ d ∈ c :: w, isBlank d = false := List.forall_mem_cons.2 ⟨hc, hw⟩
      exact ⟨_, .word (b := []) nofun (List.cons_ne_nil c w) hword hend hrest⟩
    | cons x b =>
      have hend' : ∀ d ∈ (x :: b ++ w ++ rest).head?, isBlank d = true := by
        intro d hd
        obtain rfl : x = d := by simpa using hd
        exact hb x (List.mem_cons_self ..)
      exact ⟨_, .word (b := []) nofun (List.cons_ne_nil c []) hletter hend'
        (.word hb hne hw hend hrest)⟩

theorem exists_hasWords (t : Text) : ∃ ws, HasWords t ws := by
  induction t with
  | nil => exact ⟨[], .blanks nofun⟩
  | cons c t ih =>
    obtain ⟨ws, h⟩ := ih
    cases hc : isBlank c with
    | true => exact ⟨ws, h.cons_blank hc⟩
    | false => exact h.exists_cons_letter hc

/-- **The words of a text** are those that it is cut into. -/
theorem hasWords_iff : HasWords t ws ↔ words t = ws := by
  refine ⟨HasWords.words_eq, ?_⟩
  rintro rfl
  obtain ⟨ws, h⟩ := exists_hasWords t
  rwa [h.words_eq]

end Scenarist.Text
