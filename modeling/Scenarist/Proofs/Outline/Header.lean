/-
  Headers — the header that a step gives to its bullets has no blanks at its ends.

  1. **Upper case.**  No letter becomes a blank in upper case: no run and no expansion of the case
     tables reaches a blank code point.

  2. **Words.**  A header is made of words, which hold no blanks, joined by single spaces, so it starts
     and ends with a letter of a word; only its first letter is changed.
-/
import Scenarist.Outline.Sentence
import Scenarist.Proofs.Text.CaseImages
import Scenarist.Proofs.Text.Split
import Scenarist.Proofs.Text.Trim

namespace Scenarist.Text

variable {c d : Char}

/-! ## Upper case -/

/-- The code points of the blank characters. -/
def blankCodes : List Nat := [
    9, 10, 11, 12, 13, 0x20, 0x85, 0xA0, 0x1680, 0x2000, 0x2001, 0x2002, 0x2003, 0x2004, 0x2005,
    0x2006, 0x2007, 0x2008, 0x2009, 0x200A, 0x2028, 0x2029, 0x202F, 0x205F, 0x3000]

theorem mem_blankCodes (h : isBlank c = true) : c.toNat ∈ blankCodes := by
  simp only [isBlank, Bool.or_eq_true, Bool.and_eq_true, decide_eq_true_eq, beq_iff_eq] at h
  simp only [blankCodes, List.mem_cons, List.not_mem_nil, or_false]
  omega

/-- A run of a case table whose images lie before or after each blank. -/
def CaseRun.MissesBlanks (r : CaseRun) : Prop :=
  ∀ b ∈ blankCodes, (r.last : Int) + r.shift < b ∨ (b : Int) < r.first + r.shift

instance (r : CaseRun) : Decidable r.MissesBlanks :=
  inferInstanceAs (Decidable
    (∀ b ∈ blankCodes, (r.last : Int) + r.shift < b ∨ (b : Int) < r.first + r.shift))

theorem isBlank_toUpper : ∀ n < 128, isBlank (Char.ofNat n) = false →
    isBlank (Char.ofNat n).toUpper = false := by decide +kernel

/-- **No letter becomes a blank** in upper case. -/
theorem isBlank_of_mem_upperChar (hc : isBlank c = false) (hd : d ∈ upperChar c) :
    isBlank d = false := by
  have hruns : ∀ r ∈ upperRuns, r.MissesBlanks := by decide +kernel
  have hexpansions : ∀ p ∈ upperExpansions, ∀ n ∈ p.2, n ∉ blankCodes := by decide +kernel
  have hpos : ∀ b ∈ blankCodes, 0 < b := by decide
  refine Bool.eq_false_iff.2 fun hblank => ?_
  have hcode : d.toNat ∈ blankCodes := mem_blankCodes hblank
  have hmissed : ∀ p ∈ upperExpansions, ∀ n ∈ p.2, n ≠ d.toNat :=
    fun p hp n hn heq => hexpansions p hp n hn (heq ▸ hcode)
  rcases of_mem_upperChar (hpos _ hcode) (fun r hr => hruns r hr _ hcode) hmissed hd with ⟨hlt, rfl⟩ | rfl
  · have hupper : isBlank c.toUpper = false :=
      of_ascii (P := fun c => isBlank c = false → isBlank c.toUpper = false) isBlank_toUpper hlt hc
    exact Bool.eq_false_iff.1 hupper hblank
  · exact Bool.eq_false_iff.1 hc hblank

theorem upperChar_ne_nil (c : Char) : upperChar c ≠ [] := by
  have hexpansions : ∀ p ∈ upperExpansions, p.2 ≠ [] := by decide +kernel
  unfold upperChar
  split
  · exact List.cons_ne_nil _ _
  · split
    · next ns hns =>
      obtain ⟨before, after, hsplit, -⟩ := List.lookup_eq_some_iff.1 hns
      have hmem : (c.toNat, ns) ∈ upperExpansions := by rw [hsplit]; simp
      simpa using hexpansions _ hmem
    · split <;> exact List.cons_ne_nil _ _

/-- A text that starts and ends with letters still does when its first letter is in upper case. -/
theorem trim_capitalize {t : Text} (hhead : ∀ c ∈ t.head?, isBlank c = false)
    (hlast : ∀ c ∈ t.getLast?, isBlank c = false) : trim (capitalize t) = capitalize t := by
  cases t with
  | nil => rfl
  | cons c t =>
    have hc : isBlank c = false := hhead c rfl
    have hupper : ∀ d ∈ upperChar c, isBlank d = false :=
      fun d hd => isBlank_of_mem_upperChar hc hd
    refine trim_eq_self (fun d hd => ?_) (fun d hd => ?_)
    · have hfirst : (capitalize (c :: t)).head? = (upperChar c).head? := by
        cases h : upperChar c with
        | nil => exact absurd h (upperChar_ne_nil c)
        | cons e es => rw [capitalize, h]; rfl
      rw [hfirst] at hd
      exact hupper d (List.mem_of_mem_head? hd)
    · rw [capitalize, List.getLast?_append] at hd
      cases ht : t.getLast? with
      | some e =>
        rw [ht] at hd
        obtain rfl : e = d := by simpa using hd
        exact hlast e (by rw [List.getLast?_cons, ht]; rfl)
      | none =>
        rw [ht] at hd
        exact hupper d (List.mem_of_getLast? hd)

end Scenarist.Text

namespace Scenarist.Sentence

variable {ws found : List Text} {c : Char} {w : Text}

/-! ## Words -/

/-- A word: something without blanks. -/
def IsWord (w : Text) : Prop := w ≠ [] ∧ ∀ c ∈ w, Text.isBlank c = false

theorem isWord_of_mem_plainWords {t : Text} (h : w ∈ plainWords t) : IsWord w := by
  obtain ⟨hmem, hne⟩ := List.mem_filter.1 h
  obtain ⟨u, hu, rfl⟩ := List.mem_map.1 hmem
  refine ⟨by simpa using hne, fun c hc => ?_⟩
  have hpiece := (List.mem_filter.1 hu).1
  exact (Text.of_mem_splitWhere hpiece (List.mem_filter.1 hc).1).2

theorem throughPlural?_prefix (h : throughPlural? ws = some found) : found ≠ [] ∧ found <+: ws := by
  induction ws generalizing found with
  | nil => cases h
  | cons w ws ih =>
    rw [throughPlural?] at h
    split at h
    · obtain rfl := Option.some.inj h
      exact ⟨List.cons_ne_nil _ _, List.prefix_append [w] ws⟩
    · obtain ⟨rest, hrest, rfl⟩ := Option.map_eq_some_iff.1 h
      exact ⟨List.cons_ne_nil _ _, List.cons_prefix_cons.2 ⟨rfl, (ih hrest).2⟩⟩

/-- **A header has no blanks at its ends**, unless it is a fallback that has. -/
theorem trim_headerOf {fallback : Text} (h : Text.trim fallback = fallback) (step : Text) :
    Text.trim (headerOf step fallback) = headerOf step fallback := by
  unfold headerOf
  split
  · next found hfound =>
    obtain ⟨rest, -, hplural⟩ := Option.bind_eq_some_iff.1 hfound
    obtain ⟨hne, hstart⟩ := throughPlural?_prefix hplural
    have hwords : ∀ w ∈ found, IsWord w :=
      fun w hw => isWord_of_mem_plainWords (hstart.subset hw)
    -- words joined by spaces start and end inside of words
    obtain ⟨hhead, hlast⟩ := Text.ends_intercalate [' '] hne hwords
    exact Text.trim_capitalize hhead hlast
  · exact h

end Scenarist.Sentence
