/-
  Trimming — what `trim` takes away and what it cannot reach.

  Blanks put to either end of a text are taken away again, and a text that starts and ends with
  characters that are no blanks (`Trimmed`) is left alone.  All that trimming leaves stood in the text
  before.
-/
import Mathlib.Data.List.TakeWhile
import Scenarist.Text.Basic

namespace Scenarist.Text

variable {b t : Text} {c : Char}

/-! ## Blanks at the ends -/

theorem trimStart_blank_append (h : ∀ c ∈ b, isBlank c = true) (t : Text) :
    trimStart (b ++ t) = trimStart t := List.dropWhile_append_of_pos h

theorem trimEnd_append_blank (h : ∀ c ∈ b, isBlank c = true) (t : Text) :
    trimEnd (t ++ b) = trimEnd t := by
  unfold trimEnd
  rw [List.reverse_append, List.dropWhile_append_of_pos fun c hc => h c (List.mem_reverse.1 hc)]

theorem trim_blank_append (h : ∀ c ∈ b, isBlank c = true) (t : Text) :
    trim (b ++ t) = trim t := by
  rw [trim, trimStart_blank_append h, trim]

theorem trim_append_blank (h : ∀ c ∈ b, isBlank c = true) (t : Text) :
    trim (t ++ b) = trim t := by
  unfold trim
  by_cases ht : trimStart t = []
  · -- the whole text is blank, so nothing of `b` is left either
    have hb : trimStart (t ++ b) = trimStart b := by
      have hall : ∀ c ∈ t, isBlank c = true := List.dropWhile_eq_nil_iff.1 ht
      exact trimStart_blank_append hall b
    have hnil : trimStart b = [] := List.dropWhile_eq_nil_iff.2 h
    rw [hb, hnil, ht]
  · -- a character of the text is kept, and trimming at the start stops there
    have hkept : trimStart (t ++ b) = trimStart t ++ b := by
      have hsome : ((t.dropWhile isBlank).isEmpty) = false := by
        rw [List.isEmpty_eq_false_iff]
        exact ht
      show (t ++ b).dropWhile isBlank = t.dropWhile isBlank ++ b
      rw [List.dropWhile_append, hsome]
      rfl
    rw [hkept, trimEnd_append_blank h]

/-! ## Texts without blanks at their ends -/

theorem trimStart_eq_self (h : ∀ c ∈ t.head?, isBlank c = false) : trimStart t = t :=
  dropWhile_eq_self h

theorem trimEnd_eq_self (h : ∀ c ∈ t.getLast?, isBlank c = false) : trimEnd t = t := by
  unfold trimEnd
  rw [dropWhile_eq_self (t := t.reverse) fun c hc => h c (by rwa [List.head?_reverse] at hc),
    List.reverse_reverse]

theorem trim_eq_self (hhead : ∀ c ∈ t.head?, isBlank c = false)
    (hlast : ∀ c ∈ t.getLast?, isBlank c = false) : trim t = t := by
  rw [trim, trimStart_eq_self hhead, trimEnd_eq_self hlast]

/-! ## Trimmed texts -/

/-- There is no blank at either end. -/
structure Trimmed (t : Text) : Prop where
  /-- The first character is no blank. -/
  head : ∀ c ∈ t.head?, isBlank c = false
  /-- The last character is no blank. -/
  last : ∀ c ∈ t.getLast?, isBlank c = false

theorem trimmed_trim (t : Text) : Trimmed (trim t) where
  head := by
    intro c hc
    rw [← trimStart_trimEnd_trimStart] at hc
    exact head?_dropWhile_false hc
  last := by
    intro c hc
    unfold trim trimEnd at hc
    rw [List.getLast?_reverse] at hc
    exact head?_dropWhile_false hc

/-- Trimming changes just the texts that have a blank at an end. -/
theorem trimmed_iff : Trimmed t ↔ trim t = t := by
  constructor
  · intro h
    exact trim_eq_self h.head h.last
  · intro h
    rw [← h]
    exact trimmed_trim t

/-! ## What is left -/

theorem trim_isInfix (t : Text) : trim t <:+: t := by
  have hend : trim t <+: trimStart t := trimEnd_prefix (trimStart t)
  have hstart : trimStart t <:+ t := List.dropWhile_suffix isBlank
  exact hend.isInfix.trans hstart.isInfix

theorem mem_of_mem_trim (h : c ∈ trim t) : c ∈ t := (trim_isInfix t).subset h

/-- Nothing is left of the texts of blanks, and of no others. -/
theorem trim_eq_nil_iff : trim t = [] ↔ ∀ c ∈ t, isBlank c = true := by
  constructor
  · intro h c hc
    have hrest : ∀ d ∈ trimStart t, isBlank d = true := by
      intro d hd
      have hnil : (trimStart t).reverse.dropWhile isBlank = [] := List.reverse_eq_nil_iff.1 h
      exact List.dropWhile_eq_nil_iff.1 hnil d (List.mem_reverse.2 hd)
    rw [← List.takeWhile_append_dropWhile (p := isBlank) (l := t)] at hc
    rcases List.mem_append.1 hc with hc | hc
    · exact List.mem_takeWhile_imp hc
    · exact hrest c hc
  · intro h
    have hblank := trim_blank_append h []
    rw [List.append_nil] at hblank
    rw [hblank]
    rfl

end Scenarist.Text
