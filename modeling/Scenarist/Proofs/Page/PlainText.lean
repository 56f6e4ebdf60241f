/-
  Plain text — words are read as they are written.

  1. **Pieces.**  Neither a letter nor a space starts anything in inline content: with no mark and
     no line ending about, each is a piece of its own (`readPieces_plain`), and no run is paired.

  2. **Text.**  Joining runs of text keeps what they say (`contentText_joinTexts`), so the passage
     says its characters, less the spaces it ends with (`contentText_words`).
-/
import Scenarist.Proofs.Markdown.LineStarts
import Scenarist.Proofs.Page.Parts

namespace Scenarist.Markdown

variable {g : Glyph} {gs : List Glyph}

/-! ## Pieces -/

/-- There are letters and spaces only. -/
def AllPlain (gs : List Glyph) : Prop := ∀ g ∈ gs, g.char.isAlpha = true ∨ g.char = ' '

/-- No line ending follows, so spacing is text as well. -/
theorem spacingPiece_plain (h : AllPlain (g :: gs)) : spacingPiece g gs = (plain g, 0) := by
  unfold spacingPiece
  dsimp only
  split
  · next k rest hk =>
    have hmem : k ∈ g :: gs := by
      have hdrop : k ∈ (g :: gs).drop (spacingLength (g :: gs)) := by
        rw [hk]
        exact List.mem_cons_self ..
      exact List.mem_of_mem_drop hdrop
    have hfeed : k.char ≠ '\n' := Text.ne_of_plain (h k hmem) (by decide) (by decide)
    rw [if_neg hfeed]
  · rfl

theorem nextPiece_plain (h : AllPlain (g :: gs)) (inTable : Bool) (before : Option Char) :
    nextPiece inTable before g gs = (plain g, 0) := by
  have hg := h g (List.mem_cons_self ..)
  have hne : ∀ d : Char, d.isAlpha = false → d ≠ ' ' → g.char ≠ d := fun d => Text.ne_of_plain hg
  have hmark : (g.char = '*' || g.char = '_' || g.char = '~') = false := by
    simp [hne '*' (by decide) (by decide), hne '_' (by decide) (by decide),
      hne '~' (by decide) (by decide)]
  unfold nextPiece
  dsimp only
  rw [if_neg (hne '\\' (by decide) (by decide)), if_neg (hne '<' (by decide) (by decide)),
    if_neg (hne '\x60' (by decide) (by decide)), hmark, if_neg Bool.false_ne_true,
    spacingPiece_plain h, if_neg (hne '&' (by decide) (by decide)), ite_self]

/-- Letters and spaces are read one by one. -/
theorem readPieces_plain (ds : List Definition) (inTable : Bool) (h : AllPlain gs) :
    ∀ (before : Option Char) (out : List Piece),
      readPieces ds inTable before [] out gs = out.reverse ++ gs.map plain := by
  -- each step changes the character before and the pieces so far, so the induction fixes neither
  induction gs with
  | nil =>
    intro before out
    rw [readPieces, List.map_nil, List.append_nil]
    rfl
  | cons g gs ih =>
    intro before out
    have hg := h g (List.mem_cons_self ..)
    have hopen : g.char ≠ '[' := Text.ne_of_plain hg (by decide) (by decide)
    have hclose : g.char ≠ ']' := Text.ne_of_plain hg (by decide) (by decide)
    have himage : ¬ (g.char = '!' && gs.head?.any fun h => h.char == '[') = true := by
      simp [Text.ne_of_plain hg (d := '!') (by decide) (by decide)]
    rw [readPieces, if_neg hopen, if_neg himage, if_neg hclose, nextPiece_plain h]
    have hrest := ih (fun k hk => h k (List.mem_cons_of_mem g hk)) (some g.char) (plain g :: out)
    simpa using hrest

/-! ## Pairing -/

theorem foldl_take_nodes (nodes : List Inline) : ∀ base : List Inline,
    (nodes.map Piece.node).foldl Pairing.take ⟨[], base⟩ = ⟨[], nodes.reverse ++ base⟩ := by
  induction nodes with
  | nil =>
    intro base
    rfl
  | cons node nodes ih =>
    intro base
    rw [List.map_cons, List.foldl_cons, List.reverse_cons, List.append_assoc]
    exact ih (node :: base)

/-- Nodes without runs between them are only joined. -/
theorem pairRuns_nodes (nodes : List Inline) :
    pairRuns (nodes.map Piece.node) = Inline.joinTexts nodes := by
  have h := foldl_take_nodes nodes []
  rw [List.append_nil] at h
  rw [pairRuns, h, Pairing.finish, List.flatMap_nil, List.nil_append, List.reverse_reverse]

/-! ## The end of a passage -/

theorem chars_trimSpacingEnd (gs : List Glyph) :
    chars (trimSpacingEnd gs) = ((chars gs).reverse.dropWhile isSpacing).reverse := by
  simp only [chars, trimSpacingEnd, ← List.map_reverse, List.dropWhile_map]
  rfl

/-- Only the spaces after the last letter are left out. -/
theorem chars_trimSpacingEnd_words {t b : Text} (ht : Text.IsWords t) (hb : ∀ c ∈ b, c = ' ')
    (hgs : chars gs = t ++ b) : chars (trimSpacingEnd gs) = t := by
  obtain ⟨u, c, rfl, hc⟩ := ht.exists_concat
  have hspaces : ∀ d ∈ b.reverse, isSpacing d = true := by
    intro d hd
    rw [hb d (List.mem_reverse.1 hd)]
    rfl
  have hletter : isSpacing c = false := isSpacing_of_isMarker (isMarker_of_isAlpha hc)
  rw [chars_trimSpacingEnd, hgs, List.reverse_append, List.dropWhile_append_of_pos hspaces,
    List.reverse_concat, List.dropWhile_cons_of_neg (by simp [hletter]), List.reverse_cons,
    List.reverse_reverse]

/-- A passage of letters and spaces is its characters, joined. -/
theorem read_plain (ds : List Definition) (inTable : Bool) (h : AllPlain (trimSpacingEnd gs)) :
    Passage.read ds ⟨gs, inTable⟩ = Inline.joinTexts ((trimSpacingEnd gs).map Inline.ofGlyph) := by
  have hpieces := readPieces_plain ds inTable h none []
  have hnodes : (trimSpacingEnd gs).map plain
      = ((trimSpacingEnd gs).map Inline.ofGlyph).map Piece.node := by
    rw [List.map_map]
    rfl
  rw [Passage.read, hpieces, List.reverse_nil, List.nil_append, hnodes, pairRuns_nodes]

end Scenarist.Markdown

namespace Scenarist.Reading

open Markdown (Inline Glyph Passage Definition chars)

variable {style : LinkStyle} {gs : List Glyph}

/-! ## Text -/

theorem contentText_joinText (node : Inline) (nodes : List Inline) :
    contentText style (Inline.joinText node nodes) = contentText style (node :: nodes) := by
  unfold Inline.joinText
  split
  · next s a t b rest =>
    simp only [contentText, nodeText, leafChars, List.append_assoc]
  · rfl

theorem contentText_joinTexts (nodes : List Inline) :
    contentText style (Inline.joinTexts nodes) = contentText style nodes := by
  induction nodes with
  | nil => rfl
  | cons node nodes ih =>
    have hstep : Inline.joinTexts (node :: nodes)
        = Inline.joinText node (Inline.joinTexts nodes) := rfl
    rw [hstep, contentText_joinText, contentText, contentText, ih]

theorem contentText_glyphs (gs : List Glyph) :
    contentText style (gs.map Inline.ofGlyph) = chars gs := by
  induction gs with
  | nil => rfl
  | cons g gs ih =>
    rw [List.map_cons, contentText, ih]
    rfl

/-- **Words are read as they are written**, wherever they stand and whatever spaces come after
them. -/
theorem contentText_words {t b : Text} (ht : Text.IsWords t) (hb : ∀ c ∈ b, c = ' ')
    (hgs : chars gs = t ++ b) (ds : List Definition) (inTable : Bool) :
    contentText style (Passage.read ds ⟨gs, inTable⟩) = t := by
  have htrimmed := Markdown.chars_trimSpacingEnd_words ht hb hgs
  have hplain : Markdown.AllPlain (Markdown.trimSpacingEnd gs) := by
    intro g hg
    exact ht.isAlpha_or_space (Markdown.char_mem htrimmed hg)
  rw [Markdown.read_plain ds inTable hplain, contentText_joinTexts, contentText_glyphs, htrimmed]

end Scenarist.Reading
