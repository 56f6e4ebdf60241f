/-
  Line starts — lines whose first character announces nothing.

  1. **Glyphs of words.**  Words start and end with a letter, and so do the glyphs that spell them.

  2. **Indentation.**  Where no blank comes first, no columns are read.

  3. **Marks.**  A rule, a fence, an item, a quote and a block of HTML each start with a character
     of their own (`isMarker`).  A line that starts with none of them is a heading, a table or a
     paragraph.
-/
import Scenarist.Markdown.Layout
import Scenarist.Proofs.Text.Words

namespace Scenarist.Markdown

variable {g : Glyph} {gs : List Glyph} {c : Cursor}

/-! ## Glyphs of words -/

theorem char_mem {t : Text} (hgs : chars gs = t) (hg : g ∈ gs) : g.char ∈ t := by
  rw [← hgs]
  exact List.mem_map_of_mem hg

theorem exists_first_letter {t : Text} (ht : Text.IsWords t) (hgs : chars gs = t) :
    ∃ g tail, gs = g :: tail ∧ g.char.isAlpha = true := by
  obtain ⟨a, u, rfl, ha⟩ := ht.exists_cons
  obtain ⟨g, tail, rfl, rfl, -⟩ := List.map_eq_cons_iff.1 hgs
  exact ⟨g, tail, rfl, ha⟩

theorem exists_last_letter {t : Text} (ht : Text.IsWords t) (hgs : chars gs = t) :
    ∃ front g, gs = front ++ [g] ∧ g.char.isAlpha = true := by
  obtain ⟨u, a, rfl, ha⟩ := ht.exists_concat
  obtain ⟨front, last, rfl, -, hlast⟩ := List.map_eq_append_iff.1 hgs
  obtain ⟨g, tail, rfl, rfl, hnil⟩ := List.map_eq_cons_iff.1 hlast
  obtain rfl : tail = [] := List.map_eq_nil_iff.1 hnil
  exact ⟨front, g, rfl, ha⟩

/-! ## Characters that announce something -/

/-- Whether a line that starts with the character may be indented or may open something other than
a heading, a table or a paragraph. -/
def isMarker (c : Char) : Bool :=
  isSpacing c || c.isDigit || ['<', '>', '*', '-', '+', '_', '~', '[', '\x60'].contains c

theorem ne_of_isMarker {a b : Char} (ha : isMarker a = false) (hb : isMarker b = true) : a ≠ b := by
  rintro rfl
  rw [ha] at hb
  cases hb

theorem isMarker_of_isAlpha {a : Char} (ha : a.isAlpha = true) : isMarker a = false := by
  have hne : ∀ d : Char, d.isAlpha = false → a ≠ d := fun d => Text.ne_of_isAlpha ha
  have hdigit : a.isDigit = false := by
    obtain ⟨hfirst, -⟩ := Text.code_of_isAlpha ha
    have hcode : a.val.toNat = a.toNat := rfl
    simp only [Char.isDigit, ge_iff_le, Bool.and_eq_false_iff, decide_eq_false_iff_not,
      UInt32.le_iff_toNat_le, hcode]
    right
    simp
    omega
  simp [isMarker, isSpacing, hdigit, hne ' ' (by decide), hne '\t' (by decide),
    hne '\x0b' (by decide), hne '\x0c' (by decide), hne '<' (by decide), hne '>' (by decide),
    hne '*' (by decide), hne '-' (by decide), hne '+' (by decide), hne '_' (by decide),
    hne '~' (by decide), hne '[' (by decide), hne '\x60' (by decide)]

theorem isSpacing_of_isMarker {a : Char} (ha : isMarker a = false) : isSpacing a = false := by
  simp only [isMarker, Bool.or_eq_false_iff] at ha
  exact ha.1.1

/-! ## Indentation -/

/-- No columns are read where no blank stands. -/
theorem readSpaces_eq_self (howed : c.owed = 0) (hrest : c.rest = g :: gs)
    (h : g.char ≠ ' ' ∧ g.char ≠ '\t') (n : Nat) : c.readSpaces n = (0, c) := by
  obtain ⟨rest, pos, column, owed⟩ := c
  obtain rfl : owed = 0 := howed
  obtain rfl : rest = g :: gs := hrest
  simp [Cursor.readSpaces, Cursor.takeColumns, h.1, h.2]

theorem readSpaces_start (howed : c.owed = 0) (hrest : c.rest = g :: gs)
    (h : isMarker g.char = false) (n : Nat) : c.readSpaces n = (0, c) :=
  readSpaces_eq_self howed hrest ⟨ne_of_isMarker h (by decide), ne_of_isMarker h (by decide)⟩ n

theorem readSpaces_atEnd (howed : c.owed = 0) (hrest : c.rest = []) (n : Nat) :
    c.readSpaces n = (0, c) := by
  obtain ⟨rest, pos, column, owed⟩ := c
  obtain rfl : owed = 0 := howed
  obtain rfl : rest = [] := hrest
  cases n <;> rfl

/-! ## Marks -/

theorem headingLevel?_start (hne : g.char ≠ '#') : headingLevel? (g :: gs) = none := by
  have hcount : countOf '#' (g :: gs) = 0 := by simp [countOf, hne]
  simp [headingLevel?, hcount]

section Marks

variable (h : isMarker g.char = false)
include h

theorem isBlankRest_start : isBlankRest (g :: gs) = false := by
  simp [isBlankRest, isSpacing_of_isMarker h]

theorem isRule_start : isRule (g :: gs) = false := by
  simp [isRule, ne_of_isMarker h (b := '*') (by decide), ne_of_isMarker h (b := '-') (by decide),
    ne_of_isMarker h (b := '_') (by decide)]

theorem fence?_start : fence? (g :: gs) = none := by
  simp [fence?, ne_of_isMarker h (b := '\x60') (by decide),
    ne_of_isMarker h (b := '~') (by decide)]

theorem itemMark?_start : itemMark? (g :: gs) = none := by
  have hdigit : g.char.isDigit = false := by
    simp only [isMarker, Bool.or_eq_false_iff] at h
    exact h.1.2
  have hsign : isBulletSign g.char = false := by
    simp [isBulletSign, ne_of_isMarker h (b := '-') (by decide),
      ne_of_isMarker h (b := '+') (by decide), ne_of_isMarker h (b := '*') (by decide)]
  simp [itemMark?, chars, hdigit, hsign]

theorem quoteMark?_start (hrest : c.rest = g :: gs) : c.quoteMark? = none := by
  simp [Cursor.quoteMark?, hrest, ne_of_isMarker h (b := '>') (by decide)]

theorem interrupting?_start : HtmlEnd.interrupting? (chars (g :: gs)) = none := by
  have hne : g.char ≠ '<' := ne_of_isMarker h (by decide)
  unfold HtmlEnd.interrupting? chars
  rw [List.map_cons]
  split
  · next t ht => exact absurd (List.cons.inj ht).1 hne
  · rfl

theorem ofLine?_start : HtmlEnd.ofLine? (chars (g :: gs)) = none := by
  have hne : g.char ≠ '<' := ne_of_isMarker h (by decide)
  unfold HtmlEnd.ofLine?
  rw [interrupting?_start h]
  dsimp only
  unfold chars
  rw [List.map_cons]
  split
  · next t ht => exact absurd (List.cons.inj ht).1 hne
  · rfl

/-- Only a heading can end a leaf that way. -/
theorem interrupts_start (hne : g.char ≠ '#') (inside inTable : Bool) :
    Layout.interrupts inside inTable (g :: gs) = false := by
  simp [Layout.interrupts, isRule_start h, headingLevel?_start hne, fence?_start h,
    itemMark?_start h, interrupting?_start h, ne_of_isMarker h (b := '>') (by decide)]

theorem cursor_itemMark?_start (hrest : c.rest = g :: gs) (outer : Nat) :
    c.itemMark? outer = none := by
  simp [Cursor.itemMark?, hrest, isRule_start h, itemMark?_start h]

/-- Neither a quote nor an item is opened. -/
theorem openMarks_start (l : Layout) (line : Line) (fuel : Nat) (howed : c.owed = 0)
    (hrest : c.rest = g :: gs) : Layout.openMarks line fuel l c = (l, some c) := by
  cases fuel with
  | zero => rfl
  | succ fuel =>
    rw [Layout.openMarks, readSpaces_start howed hrest h]
    dsimp only
    rw [if_neg (by decide), cursor_itemMark?_start h hrest, quoteMark?_start h hrest]

end Marks

/-! ## Leaves -/

section Leaves

variable {a : Char} {u : Text} (l : Layout) (line : Line) (rest : List Line) (howed : c.owed = 0)
include howed

/-- A line that is no heading is a paragraph or a table. -/
theorem leaf_start (hrest : chars c.rest = a :: u) (ha : isMarker a = false) (hne : a ≠ '#') :
    l.leaf line c rest = l.paragraph line c rest := by
  obtain ⟨g, gs, hglyphs, rfl, -⟩ := List.map_eq_cons_iff.1 hrest
  rw [Layout.leaf, readSpaces_start howed hglyphs ha]
  dsimp only
  rw [hglyphs, if_neg (by decide), ofLine?_start ha, isRule_start ha, headingLevel?_start hne,
    fence?_start ha]
  rfl

/-- A line that starts with the marks of a heading is one. -/
theorem leaf_heading (hrest : chars c.rest = '#' :: u) {level : Nat}
    (hlevel : headingLevel? c.rest = some level) :
    l.leaf line c rest
      = (.part (.heading ⟨c.pos, line.stop⟩ level ⟨headingContent level c.rest, false⟩), 0) := by
  obtain ⟨g, gs, hglyphs, hg, -⟩ := List.map_eq_cons_iff.1 hrest
  have hmarker : isMarker g.char = false := by
    rw [hg]
    decide
  rw [Layout.leaf, readSpaces_start howed hglyphs hmarker]
  dsimp only
  rw [if_neg (by decide), hlevel, hglyphs, ofLine?_start hmarker, isRule_start hmarker]
  rfl

end Leaves

end Scenarist.Markdown
