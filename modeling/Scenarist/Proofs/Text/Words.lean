/-
  Words — texts of ASCII letters with single spaces between the words.

  1. Such a text starts and ends with a letter, so trimming leaves it alone.

  2. It holds letters and spaces only.  None of them means anything to the readers of the library,
     so the text reads the same wherever it stands.
-/
import Scenarist.Proofs.Text.Split
import Scenarist.Proofs.Text.Trim

namespace Scenarist.Text

variable {t : Text} {c d : Char}

/-! ## Letters -/

/-- A letter is none of the characters that are no letters. -/
theorem ne_of_isAlpha (hc : c.isAlpha = true) (hd : d.isAlpha = false) : c ≠ d := by
  rintro rfl
  rw [hc] at hd
  cases hd

/-- A letter or a space is none of the other characters. -/
theorem ne_of_plain (hc : c.isAlpha = true ∨ c = ' ') (hd : d.isAlpha = false)
    (hspace : d ≠ ' ') : c ≠ d := by
  rcases hc with hc | rfl
  · exact ne_of_isAlpha hc hd
  · exact hspace.symm

theorem code_of_isAlpha (hc : c.isAlpha = true) : 65 ≤ c.toNat ∧ c.toNat ≤ 122 := by
  have hcode : c.val.toNat = c.toNat := rfl
  have hcases : (c.isUpper || c.isLower) = true := hc
  rcases (Bool.or_eq_true ..).mp hcases with hupper | hlower
  · have hrange : 'A'.val ≤ c.val ∧ c.val ≤ 'Z'.val := of_decide_eq_true hupper
    have hfirst : 65 ≤ c.val.toNat := UInt32.le_iff_toNat_le.1 hrange.1
    have hlast : c.val.toNat ≤ 90 := UInt32.le_iff_toNat_le.1 hrange.2
    omega
  · have hrange : (decide ('a'.val ≤ c.val) && decide (c.val ≤ 'z'.val)) = true := hlower
    rw [Bool.and_eq_true, decide_eq_true_eq, decide_eq_true_eq] at hrange
    have hfirst : 97 ≤ c.val.toNat := UInt32.le_iff_toNat_le.1 hrange.1
    have hlast : c.val.toNat ≤ 122 := UInt32.le_iff_toNat_le.1 hrange.2
    omega

theorem isBlank_of_isAlpha (hc : c.isAlpha = true) : isBlank c = false := by
  obtain ⟨hfirst, hlast⟩ := code_of_isAlpha hc
  simp [isBlank]
  omega

/-! ## Words -/

/-- One or more words of letters, with single spaces between them. -/
def IsWords (t : Text) : Prop := ∀ w ∈ splitWhere (· == ' ') t, w ≠ [] ∧ ∀ c ∈ w, c.isAlpha = true

instance (t : Text) : Decidable (IsWords t) :=
  decidable_of_iff ((splitWhere (· == ' ') t).all fun w => !w.isEmpty && w.all Char.isAlpha)
    (by simp [IsWords])

namespace IsWords

theorem ends (ht : IsWords t) :
    (∀ c ∈ t.head?, c.isAlpha = true) ∧ ∀ c ∈ t.getLast?, c.isAlpha = true := by
  have h := ends_intercalate [' '] (splitWhere_ne_nil (· == ' ') t) ht
  rwa [intercalate_splitWhere] at h

theorem ne_nil (ht : IsWords t) : t ≠ [] := by
  rintro rfl
  exact (ht [] (by simp [splitWhere])).1 rfl

theorem exists_cons (ht : IsWords t) : ∃ c u, t = c :: u ∧ c.isAlpha = true := by
  obtain ⟨c, u, rfl⟩ := List.exists_cons_of_ne_nil ht.ne_nil
  exact ⟨c, u, rfl, ht.ends.1 c rfl⟩

theorem exists_concat (ht : IsWords t) : ∃ u c, t = u ++ [c] ∧ c.isAlpha = true := by
  have hlast : t.dropLast ++ [t.getLast ht.ne_nil] = t := List.dropLast_concat_getLast ht.ne_nil
  have hletter := ht.ends.2 (t.getLast ht.ne_nil) (List.getLast?_eq_some_getLast ht.ne_nil)
  exact ⟨t.dropLast, t.getLast ht.ne_nil, hlast.symm, hletter⟩

theorem isAlpha_or_space (ht : IsWords t) (hc : c ∈ t) : c.isAlpha = true ∨ c = ' ' := by
  rw [← intercalate_splitWhere ' ' t] at hc
  rcases of_mem_intercalate hc with hspace | ⟨w, hw, hc⟩
  · exact .inr (List.mem_singleton.1 hspace)
  · exact .inl ((ht w hw).2 c hc)

/-- Words hold none of the characters that are neither letters nor spaces. -/
theorem ne_of_mem (ht : IsWords t) (hc : c ∈ t) (hd : d.isAlpha = false) (hspace : d ≠ ' ') :
    c ≠ d := ne_of_plain (ht.isAlpha_or_space hc) hd hspace

theorem trimmed (ht : IsWords t) : Trimmed t where
  head := fun c hc => isBlank_of_isAlpha (ht.ends.1 c hc)
  last := fun c hc => isBlank_of_isAlpha (ht.ends.2 c hc)

theorem trim_eq (ht : IsWords t) : trim t = t := trimmed_iff.1 ht.trimmed

end IsWords

end Scenarist.Text
