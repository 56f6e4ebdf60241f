/-
  Text — the character lists that every other module works on.

  A text is a list of characters; strings appear only where the program meets the outside.

  1. **Blank characters.** `isBlank` is the Unicode property White_Space.  It decides what trimming
     removes and where words end, everywhere in the library.

  2. **Cutting.** `splitWhere` cuts at every character of a class and keeps the empty pieces, so a
     text with `n` such characters has `n + 1` pieces.  Lines and words are two uses of it.

  3. **Searching.** `cut?` finds the first occurrence of a mark and gives what stands before and
     after it.
-/

namespace Scenarist

/-- A text is the list of its characters. -/
abbrev Text := List Char

namespace Text

/-! ## Blank characters and trimming -/

/-- The Unicode property White_Space. -/
def isBlank (c : Char) : Bool :=
  let n := c.toNat
  (9 ≤ n && n ≤ 13) || n == 0x20 || n == 0x85 || n == 0xA0 || n == 0x1680
    || (0x2000 ≤ n && n ≤ 0x200A) || n == 0x2028 || n == 0x2029 || n == 0x202F || n == 0x205F
    || n == 0x3000

/-- A text without the blanks it starts with. -/
def trimStart (t : Text) : Text := t.dropWhile isBlank

/-- A text without the blanks it ends with. -/
def trimEnd (t : Text) : Text := (t.reverse.dropWhile isBlank).reverse

/-- A text without the blanks at its two ends. -/
def trim (t : Text) : Text := trimEnd (trimStart t)

/-! ## Cutting and joining -/

/-- The pieces between the characters of the class `cuts`, empty ones included. -/
def splitWhere (cuts : Char → Bool) : Text → List Text
  | [] => [[]]
  | c :: t =>
      if cuts c then [] :: splitWhere cuts t
      else
        match splitWhere cuts t with
        | [] => [[c]]
        | piece :: pieces => (c :: piece) :: pieces

/-- The lines of a text: the pieces between its line feeds. -/
def lines (t : Text) : List Text := splitWhere (· == '\n') t

/-- Lines joined by line feeds. -/
def unlines (ls : List Text) : Text := List.intercalate ['\n'] ls

/-- The words of a text: its longest stretches without blanks. -/
def words (t : Text) : List Text := (splitWhere isBlank t).filter fun w => !w.isEmpty

/-- A text moved right by `n` spaces. -/
def indent (n : Nat) (t : Text) : Text := List.replicate n ' ' ++ t

/-! ## Searching -/

/-- What stands before and after the first occurrence of `mark`. -/
def cut? (mark : Text) : Text → Option (Text × Text)
  | [] => if mark.isEmpty then some ([], []) else none
  | c :: t =>
      if mark.isPrefixOf (c :: t) then some ([], (c :: t).drop mark.length)
      else (cut? mark t).map fun (before, after) => (c :: before, after)

/-- Whether `mark` occurs in the text. -/
def includes (mark t : Text) : Bool := (cut? mark t).isSome

/-- What follows `mark` in a text that starts with it. -/
def after? (mark t : Text) : Option Text :=
  if mark.isPrefixOf t then some (t.drop mark.length) else none

/-! ## Small lemmas -/

theorem splitWhere_ne_nil (cuts : Char → Bool) (t : Text) : splitWhere cuts t ≠ [] := by
  cases t with
  | nil => simp [splitWhere]
  | cons c t =>
    unfold splitWhere
    split
    · simp
    · split <;> simp

theorem dropWhile_idem (p : Char → Bool) (t : Text) :
    (t.dropWhile p).dropWhile p = t.dropWhile p := by
  induction t with
  | nil => rfl
  | cons c t ih =>
    cases h : p c with
    | true => simpa [h] using ih
    | false => simp [h]

/-- A text whose first character is kept by `dropWhile` is kept whole. -/
theorem dropWhile_eq_self {p : Char → Bool} {t : Text} (h : ∀ c, t.head? = some c → p c = false) :
    t.dropWhile p = t := by
  cases t with
  | nil => rfl
  | cons c t => simp [h c rfl]

theorem trimEnd_trimEnd (t : Text) : trimEnd (trimEnd t) = trimEnd t := by
  simp [trimEnd, dropWhile_idem]

/-- What `dropWhile` leaves starts with a character outside the class. -/
theorem head?_dropWhile_false {p : Char → Bool} {t : Text} {c : Char}
    (h : (t.dropWhile p).head? = some c) : p c = false := by
  induction t with
  | nil => simp at h
  | cons d t ih =>
    cases hd : p d with
    | true => rw [List.dropWhile_cons_of_pos (by simpa using hd)] at h; exact ih h
    | false =>
      rw [List.dropWhile_cons_of_neg (by simp [hd])] at h
      simp at h
      exact h ▸ hd

/-- Dropping blanks at the end keeps the first character of what is left. -/
theorem trimEnd_prefix (t : Text) : trimEnd t <+: t := by
  have h : t.reverse.dropWhile isBlank <:+ t.reverse := List.dropWhile_suffix _
  simpa [trimEnd] using List.reverse_prefix.mpr h

theorem trimStart_trimEnd_trimStart (t : Text) : trimStart (trim t) = trim t := by
  refine dropWhile_eq_self fun c hc => ?_
  obtain ⟨r, hr⟩ := trimEnd_prefix (trimStart t)
  refine head?_dropWhile_false (t := t) ?_
  change (trimStart t).head? = some c
  rw [← hr]
  cases h : trimEnd (trimStart t) with
  | nil => simp [trim, h] at hc
  | cons d u => simpa [trim, h] using hc

/-- Trimming a trimmed text changes nothing. -/
theorem trim_trim (t : Text) : trim (trim t) = trim t := by
  rw [trim, trimStart_trimEnd_trimStart, trim, trimEnd_trimEnd]

end Text

end Scenarist
