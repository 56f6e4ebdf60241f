/-
  Same words — texts that differ in their blanks only.

  1. Words are cut at every blank, so it makes no difference which blanks stand between two words, or
     how many (`words_append_cons`).  Trimming keeps the words (`words_trim`).

  2. `SameWords` compares texts wherever they stand: with any text before them and any text after.
     Words may go on over the ends of a text, so this says more than that the two have equal words,
     and it is what lets texts be put together (`SameWords.append`).
-/
import Mathlib.Data.List.TakeWhile
import Scenarist.Proofs.Text.Split

namespace Scenarist.Text

variable {c : Char} {b s t u v : Text}

/-! ## Words and blanks -/

/-- **A blank ends a word.** -/
theorem words_append_cons (hc : isBlank c = true) (s t : Text) :
    words (s ++ c :: t) = words s ++ words t := by
  rw [words, splitWhere_append_cons hc, List.filter_append]
  rfl

theorem words_blank_append (h : ∀ c ∈ b, isBlank c = true) (t : Text) :
    words (b ++ t) = words t := by
  induction b with
  | nil => rfl
  | cons c b ih =>
    obtain ⟨hc, hb⟩ := List.forall_mem_cons.1 h
    have hcut : words ([] ++ c :: (b ++ t)) = words [] ++ words (b ++ t) :=
      words_append_cons hc [] (b ++ t)
    rw [List.cons_append, ← ih hb]
    exact hcut

theorem words_append_blank (h : ∀ c ∈ b, isBlank c = true) (t : Text) :
    words (t ++ b) = words t := by
  cases b with
  | nil => rw [List.append_nil]
  | cons c b =>
    obtain ⟨hc, hb⟩ := List.forall_mem_cons.1 h
    have hrest : words (b ++ []) = words [] := words_blank_append hb []
    rw [List.append_nil] at hrest
    rw [words_append_cons hc, hrest]
    exact List.append_nil _

/-- Trimming keeps the words. -/
theorem words_trim (t : Text) : words (trim t) = words t := by
  have hstart : words (trimStart t) = words t := by
    have hblank := words_blank_append (fun c hc => List.mem_takeWhile_imp hc)
      (t.dropWhile isBlank) (b := t.takeWhile isBlank)
    rw [List.takeWhile_append_dropWhile] at hblank
    exact hblank.symm
  have hend : ∀ u : Text, words (trimEnd u) = words u := by
    intro u
    have hblank : ∀ c ∈ (u.reverse.takeWhile isBlank).reverse, isBlank c = true :=
      fun c hc => List.mem_takeWhile_imp (List.mem_reverse.1 hc)
    have hsplit : trimEnd u ++ (u.reverse.takeWhile isBlank).reverse = u := by
      rw [trimEnd, ← List.reverse_append, List.takeWhile_append_dropWhile, List.reverse_reverse]
    rw [← words_append_blank hblank (trimEnd u), hsplit]
  rw [trim, hend, hstart]

/-! ## The same words everywhere -/

/-- Two texts make the same words, whatever stands before them and after them. -/
def SameWords (s t : Text) : Prop :=
  ∀ before after, words (before ++ s ++ after) = words (before ++ t ++ after)

namespace SameWords

theorem refl (t : Text) : SameWords t t := fun _ _ => rfl

theorem trans (h : SameWords s t) (h' : SameWords t u) : SameWords s u := fun before after =>
  (h before after).trans (h' before after)

/-- Texts can be put together. -/
theorem append (h : SameWords s t) (h' : SameWords u v) : SameWords (s ++ u) (t ++ v) := by
  intro before after
  calc words (before ++ (s ++ u) ++ after)
      = words (before ++ s ++ (u ++ after)) := by simp only [List.append_assoc]
    _ = words (before ++ t ++ (u ++ after)) := h before (u ++ after)
    _ = words (before ++ t ++ u ++ after) := by simp only [List.append_assoc]
    _ = words (before ++ t ++ v ++ after) := h' (before ++ t) after
    _ = words (before ++ (t ++ v) ++ after) := by simp only [List.append_assoc]

/-- One blank or more: which ones makes no difference. -/
theorem blanks (hs : s ≠ []) (hsb : s.all isBlank = true) (ht : t ≠ [])
    (htb : t.all isBlank = true) : SameWords s t := by
  have hcut : ∀ {b : Text}, b ≠ [] → b.all isBlank = true → ∀ before after,
      words (before ++ b ++ after) = words before ++ words after := by
    intro b hne hb before after
    obtain ⟨c, b, rfl⟩ := List.exists_cons_of_ne_nil hne
    obtain ⟨hc, hb⟩ := List.forall_mem_cons.1 (List.all_eq_true.1 hb)
    rw [List.append_assoc, List.cons_append, words_append_cons hc, words_blank_append hb]
  intro before after
  rw [hcut hs hsb, hcut ht htb]

/-- In particular the two have equal words. -/
theorem words_eq (h : SameWords s t) : words s = words t := by
  have hbare := h [] []
  rwa [List.append_nil, List.append_nil] at hbare

end SameWords

end Scenarist.Text
