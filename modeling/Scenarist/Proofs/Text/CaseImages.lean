/-
  Case images — which characters of ASCII come out of a change of case, and from where.

  1. **Runs.**  The case tables move whole runs of code points, so a code point that a run does not reach
     is the image of nothing in it (`ne_of_shiftBy?`).

  2. **Upper case.**  What a character can become is listed once (`upperChar_cases`).  Only a colon becomes a
     colon.

  3. **Lower case.**  A text ends in `s` in lower case exactly when it ends in `s` or `S`
     (`getLast?_lower_eq_s_iff`); whatever the rest of the text does to a capital sigma, it gives no `s`.

  4. **Folding.**  A character outside ASCII may fold into letters of ASCII, as a ligature does.  Where a
     word holds none of these foldings, it is found in any case by its ASCII letters alone
     (`caseless_eq_iff`); `following` is such a word (`caseless_eq_following_iff`).
-/
import Mathlib.Data.List.Infix
import Scenarist.Text.Case

namespace Scenarist.Text

variable {c d : Char} {n m : Nat} {runs : List CaseRun} {t w : Text}

/-! ## Runs -/

/-- The images of a run lie before or after a code point. -/
def CaseRun.Misses (r : CaseRun) (n : Nat) : Prop :=
  (r.last : Int) + r.shift < n ∨ (n : Int) < r.first + r.shift

instance (r : CaseRun) (n : Nat) : Decidable (r.Misses n) :=
  inferInstanceAs (Decidable ((r.last : Int) + r.shift < n ∨ (n : Int) < r.first + r.shift))

theorem ne_of_shiftBy? {k : Nat} (hk : 0 < k) (hruns : ∀ r ∈ runs, r.Misses k)
    (h : shiftBy? runs n = some m) : m ≠ k := by
  obtain ⟨r, hr, rfl⟩ := Option.map_eq_some_iff.1 h
  have hcovers := List.find?_some hr
  simp only [CaseRun.covers, Bool.and_eq_true, decide_eq_true_eq] at hcovers
  have hmisses := hruns r (List.mem_of_find?_eq_some hr)
  unfold CaseRun.Misses at hmisses
  omega

theorem ofNat_ne (hc : 0 < c.toNat) (h : n ≠ c.toNat) : Char.ofNat n ≠ c := by
  rintro rfl
  by_cases hn : n.isValidChar
  · have hcode : (Char.ofNat n).toNat = n := by
      unfold Char.ofNat
      rw [dif_pos hn]
      rfl
    exact h hcode.symm
  · have hcode : (Char.ofNat n).toNat = 0 := by simp [Char.ofNat, Char.toNat, hn]
    omega

theorem ofNat_ne_of_shiftBy? (hc : 0 < c.toNat) (hruns : ∀ r ∈ runs, r.Misses c.toNat)
    (h : shiftBy? runs n = some m) : Char.ofNat m ≠ c := ofNat_ne hc (ne_of_shiftBy? hc hruns h)

/-- What holds of all characters of ASCII holds of each. -/
theorem of_ascii {P : Char → Prop} (h : ∀ n < 128, P (Char.ofNat n)) (hc : c.toNat < 128) : P c := by
  have hcode := h c.toNat hc
  rwa [Char.ofNat_toNat] at hcode

/-! ## Upper case -/

/-- **Upper case of a character**: one of ASCII, a character of an expansion, the image in a run, or the
character itself. -/
theorem upperChar_cases (h : d ∈ upperChar c) :
    (c.toNat < 128 ∧ d = c.toUpper) ∨
    (∃ p ∈ upperExpansions, ∃ n ∈ p.2, d = Char.ofNat n) ∨
    (∃ n, shiftBy? upperRuns c.toNat = some n ∧ d = Char.ofNat n) ∨ d = c := by
  unfold upperChar at h
  split at h
  · next hlt => exact .inl ⟨hlt, List.mem_singleton.1 h⟩
  · split at h
    · next ns hns =>
      obtain ⟨n, hn, rfl⟩ := List.mem_map.1 h
      obtain ⟨before, after, hsplit, -⟩ := List.lookup_eq_some_iff.1 hns
      have hmem : (c.toNat, ns) ∈ upperExpansions := by rw [hsplit]; simp
      exact .inr (.inl ⟨_, hmem, n, hn, rfl⟩)
    · split at h
      · next n hn => exact .inr (.inr (.inl ⟨n, hn, List.mem_singleton.1 h⟩))
      · exact .inr (.inr (.inr (List.mem_singleton.1 h)))

/-- A character that no run and no expansion reaches comes out of ASCII, or out of itself. -/
theorem of_mem_upperChar (hd : 0 < d.toNat) (hruns : ∀ r ∈ upperRuns, r.Misses d.toNat)
    (hexpansions : ∀ p ∈ upperExpansions, ∀ n ∈ p.2, n ≠ d.toNat) (h : d ∈ upperChar c) :
    (c.toNat < 128 ∧ d = c.toUpper) ∨ d = c := by
  rcases upperChar_cases h with hascii | ⟨p, hp, n, hn, heq⟩ | ⟨n, hn, heq⟩ | heq
  · exact .inl hascii
  · exact absurd heq.symm (ofNat_ne hd (hexpansions p hp n hn))
  · exact absurd heq.symm (ofNat_ne_of_shiftBy? hd hruns hn)
  · exact .inr heq

theorem colon_of_toUpper : ∀ n < 128, (Char.ofNat n).toUpper = ':' → Char.ofNat n = ':' := by
  decide +kernel

/-- Only a colon becomes a colon. -/
theorem colon_of_mem_upperChar (h : ':' ∈ upperChar c) : c = ':' := by
  have hruns : ∀ r ∈ upperRuns, r.Misses (':').toNat := by decide +kernel
  have hexpansions : ∀ p ∈ upperExpansions, ∀ n ∈ p.2, n ≠ (':').toNat := by decide +kernel
  rcases of_mem_upperChar (by decide) hruns hexpansions h with ⟨hlt, hupper⟩ | hcolon
  · exact of_ascii (P := fun c => c.toUpper = ':' → c = ':') colon_of_toUpper hlt hupper.symm
  · exact hcolon.symm

/-! ## Lower case -/

theorem toLower_eq_s_iff : ∀ n < 128, (Char.ofNat n).toLower = 's' ↔
    Char.ofNat n = 's' ∨ Char.ofNat n = 'S' := by decide +kernel

theorem ne_of_not_ascii (hc : ¬ c.toNat < 128) (hd : d.toNat < 128) : c ≠ d := by
  rintro rfl
  exact hc hd

/-- Lower case of a character outside ASCII. -/
theorem lowerChar_cases (hc : ¬ c.toNat < 128) :
    lowerChar c = ['i', '\u0307'] ∨
    (∃ n, shiftBy? lowerRuns c.toNat = some n ∧ lowerChar c = [Char.ofNat n]) ∨ lowerChar c = [c] := by
  unfold lowerChar
  rw [if_neg hc]
  split
  · exact .inl rfl
  · split
    · next n hn => exact .inr (.inl ⟨n, hn, rfl⟩)
    · exact .inr (.inr rfl)

theorem getLast?_lowerChar_eq_s_iff : (lowerChar c).getLast? = some 's' ↔ c = 's' ∨ c = 'S' := by
  by_cases hc : c.toNat < 128
  · have hascii := of_ascii (P := fun c => c.toLower = 's' ↔ c = 's' ∨ c = 'S') toLower_eq_s_iff hc
    rw [lowerChar, if_pos hc]
    simpa using hascii
  · -- outside of ASCII there is no `s`, before or after
    have hruns : ∀ r ∈ lowerRuns, r.Misses ('s').toNat := by decide +kernel
    have hs : c ≠ 's' := ne_of_not_ascii hc (by decide)
    refine iff_of_false ?_ fun h => h.elim hs (ne_of_not_ascii hc (by decide))
    rcases lowerChar_cases hc with heq | ⟨n, hn, heq⟩ | heq <;> rw [heq]
    · decide
    · simpa using ofNat_ne_of_shiftBy? (by decide) hruns hn
    · simpa using hs

theorem lowerChar_ne_nil (c : Char) : lowerChar c ≠ [] := by
  unfold lowerChar
  split
  · exact List.cons_ne_nil _ _
  · split
    · exact List.cons_ne_nil _ _
    · split <;> exact List.cons_ne_nil _ _

/-- The lower case of a text ends in the lower case of its last character, or in a sigma for a sigma. -/
theorem lowerAfter_concat (c : Char) (t : Text) : ∀ before : Text, ∃ front last,
    lowerAfter before (t ++ [c]) = front ++ last ∧
      (last = lowerChar c ∨ c = 'Σ' ∧ (last = ['ς'] ∨ last = ['σ'])) := by
  induction t with
  | nil =>
    intro before
    rw [List.nil_append, lowerAfter, lowerAfter, List.append_nil]
    by_cases hc : c = 'Σ'
    · rw [if_pos hc]
      exact ⟨[], _, rfl, .inr ⟨hc, ite_eq_or_eq _ _ _⟩⟩
    · rw [if_neg hc]
      exact ⟨[], _, rfl, .inl rfl⟩
  | cons d t ih =>
    intro before
    obtain ⟨front, last, heq, hlast⟩ := ih (d :: before)
    rw [List.cons_append, lowerAfter, heq, ← List.append_assoc]
    exact ⟨_, last, rfl, hlast⟩

/-- **A text ends in `s` in lower case** exactly when it ends in `s` or `S`. -/
theorem getLast?_lower_eq_s_iff (t : Text) :
    (lower t).getLast? = some 's' ↔ t.getLast? = some 's' ∨ t.getLast? = some 'S' := by
  rcases List.eq_nil_or_concat t with rfl | ⟨init, c, rfl⟩
  · simp [lower, lowerAfter]
  · obtain ⟨front, last, heq, hlast⟩ := lowerAfter_concat c init []
    rw [List.concat_eq_append, lower, heq, List.getLast?_concat, Option.some_inj, Option.some_inj,
      ← getLast?_lowerChar_eq_s_iff]
    rcases hlast with rfl | ⟨rfl, rfl | rfl⟩
    · rw [List.getLast?_append_of_ne_nil front (lowerChar_ne_nil c)]
    · rw [List.getLast?_concat]
      decide +kernel
    · rw [List.getLast?_concat]
      decide +kernel

/-! ## Folding -/

theorem foldChar_ascii (hc : c.toNat < 128) : foldChar c = [c.toLower] := if_pos hc

theorem toLower_of_not_ascii (hc : ¬ c.toNat < 128) : c.toLower = c := by
  have hcode : c.val.toNat = c.toNat := rfl
  unfold Char.toLower
  split
  · next h =>
    have hle : c.val.toNat ≤ 90 := UInt32.le_iff_toNat_le.1 h.2
    omega
  · rfl

/-- **A word is found in any case by its ASCII letters** if no other character folds into a part of it. -/
theorem caseless_eq_iff (hascii : ∀ d ∈ w, d.toNat < 128)
    (hfold : ∀ c, ¬ c.toNat < 128 → ¬ foldChar c <:+: w) :
    caseless t = w ↔ t.map Char.toLower = w := by
  induction t generalizing w with
  | nil => rfl
  | cons c t ih =>
    have hcons : caseless (c :: t) = foldChar c ++ caseless t := List.flatMap_cons ..
    by_cases hc : c.toNat < 128
    · rw [hcons, foldChar_ascii hc, List.map_cons, List.singleton_append]
      cases w with
      | nil => simp
      | cons d w =>
        have hrest := ih (fun e he => hascii e (List.mem_cons_of_mem d he))
          fun e he hpart => hfold e he (hpart.trans (List.suffix_cons d w).isInfix)
        rw [List.cons.injEq, List.cons.injEq, hrest]
    · -- neither its folding nor the character itself is part of the word
      refine iff_of_false (fun h => hfold c hc ?_) fun h => hc ?_
      · rw [← h, hcons]
        exact (List.prefix_append _ _).isInfix
      · have hmem : c.toLower ∈ w := by
          rw [← h, List.map_cons]
          exact List.mem_cons_self ..
        rw [toLower_of_not_ascii hc] at hmem
        exact hascii c hmem

/-- What a character outside ASCII folds into. -/
theorem foldChar_cases (hc : ¬ c.toNat < 128) :
    (∃ p ∈ foldExpansions, foldChar c = p.2.map Char.ofNat) ∨
    (∃ n, shiftBy? foldRuns c.toNat = some n ∧ foldChar c = [Char.ofNat n]) ∨
    foldChar c = lowerChar c := by
  unfold foldChar
  rw [if_neg hc]
  split
  · next ns hns =>
    obtain ⟨before, after, hsplit, -⟩ := List.lookup_eq_some_iff.1 hns
    exact .inl ⟨(c.toNat, ns), by rw [hsplit]; simp, rfl⟩
  · split
    · next n hn => exact .inr (.inl ⟨n, hn, rfl⟩)
    · exact .inr (.inr rfl)

/-- The code points of `following`.  As numbers they are few to look through, as characters they are not. -/
theorem following_codes : ∀ n ∈ "following".toList.map Char.toNat, 0 < n ∧ n < 128 := by decide

/-- No character outside ASCII folds into a part of `following`. -/
theorem foldChar_not_part (hc : ¬ c.toNat < 128) : ¬ foldChar c <:+: "following".toList := by
  have hexpansions : ∀ p ∈ foldExpansions, ¬ p.2.map Char.ofNat <:+: "following".toList := by
    decide +kernel
  have hfold : ∀ r ∈ foldRuns, ∀ n ∈ "following".toList.map Char.toNat, r.Misses n := by decide +kernel
  have hlower : ∀ r ∈ lowerRuns, ∀ n ∈ "following".toList.map Char.toNat, r.Misses n := by decide +kernel
  have hcode : ∀ {e}, [e] <:+: "following".toList → e.toNat ∈ "following".toList.map Char.toNat :=
    fun hpart => List.mem_map_of_mem (hpart.subset (List.mem_singleton_self _))
  have hrun : ∀ {runs m}, (∀ r ∈ runs, ∀ n ∈ "following".toList.map Char.toNat, r.Misses n) →
      shiftBy? runs c.toNat = some m → ¬ [Char.ofNat m] <:+: "following".toList := by
    intro runs m hruns hm hpart
    have hpos := (following_codes _ (hcode hpart)).1
    exact ofNat_ne_of_shiftBy? hpos (fun r hr => hruns r hr _ (hcode hpart)) hm rfl
  rcases foldChar_cases hc with ⟨p, hp, heq⟩ | ⟨n, hn, heq⟩ | heq
  · rw [heq]
    exact hexpansions p hp
  · rw [heq]
    exact hrun hfold hn
  · rw [heq]
    rcases lowerChar_cases hc with heq | ⟨n, hn, heq⟩ | heq
    · rw [heq]
      decide +kernel
    · rw [heq]
      exact hrun hlower hn
    · rw [heq]
      exact fun hpart => hc (following_codes _ (hcode hpart)).2

theorem caseless_eq_following_iff :
    caseless t = "following".toList ↔ t.map Char.toLower = "following".toList :=
  caseless_eq_iff (fun _ hd => (following_codes _ (List.mem_map_of_mem hd)).2)
    fun _ hc => foldChar_not_part hc

end Scenarist.Text
