/-
  Letters — what a text shows.

  1. `withoutBlanks` keeps the characters of a text that are not blank, in their order.  Trimming does
     not change it, and it goes through joins.

  2. `letters` counts those characters, whatever their order.  Trimming changes a text, but not its
     letters, and neither does the order of its parts.
-/
import Mathlib.Algebra.Order.Group.Multiset
import Mathlib.Data.List.TakeWhile
import Scenarist.Text.Basic

namespace Scenarist.Text

variable {t : Text}

/-! ## In order -/

/-- The characters of a text that are not blank, in order. -/
def withoutBlanks (t : Text) : Text := t.filter fun c => !isBlank c

@[simp] theorem withoutBlanks_append (t u : Text) :
    withoutBlanks (t ++ u) = withoutBlanks t ++ withoutBlanks u := List.filter_append ..

theorem withoutBlanks_of_blank (h : ∀ c ∈ t, isBlank c = true) : withoutBlanks t = [] := by
  rw [withoutBlanks, List.filter_eq_nil_iff]
  intro c hc
  simp [h c hc]

theorem withoutBlanks_trimStart (t : Text) : withoutBlanks (trimStart t) = withoutBlanks t := by
  have hblank : withoutBlanks (t.takeWhile isBlank) = [] :=
    withoutBlanks_of_blank fun c hc => List.mem_takeWhile_imp hc
  calc withoutBlanks (trimStart t)
      = withoutBlanks (t.takeWhile isBlank) ++ withoutBlanks (t.dropWhile isBlank) := by
        rw [hblank]
        rfl
    _ = withoutBlanks t := by rw [← withoutBlanks_append, List.takeWhile_append_dropWhile]

theorem withoutBlanks_trimEnd (t : Text) : withoutBlanks (trimEnd t) = withoutBlanks t := by
  have hstart : withoutBlanks (trimStart t.reverse) = withoutBlanks t.reverse :=
    withoutBlanks_trimStart _
  have hreverse : ∀ u : Text, withoutBlanks u.reverse = (withoutBlanks u).reverse :=
    fun u => List.filter_reverse ..
  rw [trimEnd, hreverse]
  rw [trimStart, hreverse] at hstart
  rw [hstart, List.reverse_reverse]

@[simp] theorem withoutBlanks_trim (t : Text) : withoutBlanks (trim t) = withoutBlanks t := by
  rw [trim, withoutBlanks_trimEnd, withoutBlanks_trimStart]

theorem withoutBlanks_intercalate (sep : Text) (ts : List Text) :
    withoutBlanks (List.intercalate sep ts)
      = List.intercalate (withoutBlanks sep) (ts.map withoutBlanks) := by
  induction ts with
  | nil => rfl
  | cons t ts ih =>
    cases ts with
    | nil => simp
    | cons u us =>
      rw [List.intercalate_cons_cons, withoutBlanks_append, withoutBlanks_append, ih]
      simp only [List.map_cons]
      rw [List.intercalate_cons_cons]

/-! ## Whatever the order -/

/-- The characters of a text that are not blank, each as often as it occurs. -/
def letters (t : Text) : Multiset Char := ↑(t.filter fun c => !isBlank c)

/-- Letters are what is there without blanks, in any order. -/
theorem letters_eq (t : Text) : letters t = ↑(withoutBlanks t) := rfl

@[simp] theorem letters_nil : letters [] = 0 := rfl

@[simp] theorem letters_append (t u : Text) : letters (t ++ u) = letters t + letters u := by
  rw [letters_eq, withoutBlanks_append]
  exact (Multiset.coe_add _ _).symm

theorem letters_of_blank (h : ∀ c ∈ t, isBlank c = true) : letters t = 0 := by
  rw [letters_eq, withoutBlanks_of_blank h]
  rfl

theorem letters_flatMap_congr {α : Type} {f g : α → Text} {xs : List α}
    (h : ∀ x ∈ xs, letters (f x) = letters (g x)) :
    letters (xs.flatMap f) = letters (xs.flatMap g) := by
  induction xs with
  | nil => rfl
  | cons x xs ih =>
    obtain ⟨hx, hxs⟩ := List.forall_mem_cons.1 h
    rw [List.flatMap_cons, List.flatMap_cons, letters_append, letters_append, hx, ih hxs]

theorem letters_flatten_reverse (ts : List Text) :
    letters ts.reverse.flatten = letters ts.flatten := by
  induction ts with
  | nil => rfl
  | cons t ts ih => simp [ih, add_comm]

theorem letters_flatten_flatten_reverse (rows : List (List Text)) :
    letters rows.reverse.flatten.flatten = letters rows.flatten.flatten := by
  rw [List.flatten_flatten, List.map_reverse, letters_flatten_reverse, List.flatten_flatten]

@[simp] theorem letters_trim (t : Text) : letters (trim t) = letters t := by
  rw [letters_eq, withoutBlanks_trim, letters_eq]

end Scenarist.Text
