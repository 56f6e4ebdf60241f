/-
  Segments — paragraphs that are put together from plain texts and links.

  1. **Segments.**  A segment is a text without an opening bracket, or a link that ends where it should;
     both carry the proof.  Nothing else is asked of them: links may touch, a label may hold brackets that
     open, and the text around it may hold brackets that close.

  2. **One segment.**  The scan for links leaves a segment exactly where it ends, whatever comes after it
     (`found_segment`).

  3. **All segments.**  So the links that are found in a paragraph are the links it was put together from
     (`found_segments`), and cleaning it keeps the texts and the labels (`clean_segments`).

  4. **How far that goes.**  A paragraph can be put together like that exactly when each of its opening
     brackets belongs to a link that is found (`exists_segments_iff`).
-/
import Scenarist.Proofs.Outline.Links

namespace Scenarist.Sentence

/-! ## Segments -/

/-- A part of a paragraph. -/
inductive Segment where
  /-- Text without an opening bracket. -/
  | text (run : Text) (bracketless : '[' ∉ run)
  /-- A link that ends where it should. -/
  | link (label address : Text) (whole : Whole label address)

/-- A segment as it stands in the paragraph. -/
def Segment.written : Segment → Text
  | .text run _ => run
  | .link label address _ => '[' :: label ++ "](".toList ++ address ++ [')']

/-- What a reader sees of a segment: its text, or its label. -/
def Segment.shown : Segment → Text
  | .text run _ => run
  | .link label _ _ => label

/-- The pieces of a segment: its characters one by one, or the link. -/
def Segment.pieces : Segment → List Piece
  | .text run _ => run.map .plain
  | .link label address _ => [.link label address]

variable {t : Text} {ps : List Piece}

theorem visible_pieces (s : Segment) : visible s.pieces = s.shown := by
  cases s with
  | text run h => exact visible_plain run
  | link label address h => exact List.append_nil _

/-- No segment has an opening bracket of its own beside that of a link. -/
theorem bracket_not_mem_pieces (s : Segment) : .plain '[' ∉ s.pieces := by
  cases s with
  | text run h =>
    intro hmem
    obtain ⟨c, hc, hbracket⟩ := List.mem_map.1 hmem
    obtain rfl := Piece.plain.inj hbracket
    exact h hc
  | link label address h =>
    intro hmem
    cases List.mem_singleton.1 hmem

/-! ## One segment -/

theorem found_text (h : '[' ∉ t) (rest : Text) : found (t ++ rest) = t.map .plain ++ found rest := by
  induction t with
  | nil => rfl
  | cons c t ih =>
    obtain ⟨hc, ht⟩ : '[' ≠ c ∧ '[' ∉ t := by simpa using h
    rw [List.cons_append, found_plain fun hbracket => absurd hbracket.symm hc, ih ht]
    rfl

/-- **One segment.**  The scan goes through a segment and goes on right behind it. -/
theorem found_segment (s : Segment) (rest : Text) :
    found (s.written ++ rest) = s.pieces ++ found rest := by
  cases s with
  | text run h => exact found_text h rest
  | link label address h => exact found_link h rest

/-! ## All segments -/

/-- **The links of a paragraph** are those it was put together from. -/
theorem found_segments (segments : List Segment) :
    found (segments.flatMap Segment.written) = segments.flatMap Segment.pieces := by
  induction segments with
  | nil => rw [List.flatMap_nil, found, List.flatMap_nil]
  | cons s segments ih => rw [List.flatMap_cons, found_segment, ih, List.flatMap_cons]

theorem visible_segments (segments : List Segment) :
    visible (segments.flatMap Segment.pieces) = segments.flatMap Segment.shown := by
  induction segments with
  | nil => rfl
  | cons s segments ih =>
    rw [List.flatMap_cons, visible_append, visible_pieces, ih, List.flatMap_cons]

/-- **Cleaning a paragraph of segments.**  Each link that it was put together from is found as that link,
and no other is found.  What is left of the paragraph are its texts and labels in their order, without line
feeds and carriage returns, and trimmed. -/
theorem clean_segments (segments : List Segment) :
    found (segments.flatMap Segment.written) = segments.flatMap Segment.pieces ∧
    clean (segments.flatMap Segment.written)
      = Text.trim ((segments.flatMap Segment.shown).filter fun c => c != '\n' && c != '\r') := by
  have hfound := found_segments segments
  have hunlink : unlink (segments.flatMap Segment.written) = segments.flatMap Segment.shown := by
    rw [← visible_found, hfound, visible_segments]
  refine ⟨hfound, ?_⟩
  rw [clean, hunlink, dropBreaks]

/-- Links that touch, with a bracket and a line feed in a label and parentheses around. -/
example : clean ([Segment.text " (a] ".toList (by decide),
      .link "x[(\n".toList "u(".toList ⟨by decide, by decide, by decide, by decide⟩,
      .link "y".toList "[v]".toList ⟨by decide, by decide, by decide, by decide⟩].flatMap
        Segment.written)
    = "(a] x[(y".toList := by decide +kernel

/-! ## How far that goes -/

theorem allWhole_found (t : Text) : AllWhole (found t) := by
  intro label address hmem
  induction t using found.induct with
  | case1 =>
    rw [found] at hmem
    cases hmem
  | case2 t l a hparts ih =>
    obtain ⟨hwhole, rest, hrest⟩ := linkParts?_eq_some_iff.1 hparts
    rw [drop_of_spelled hrest] at ih
    rw [hrest, found_link hwhole] at hmem
    rcases List.mem_cons.1 hmem with heq | hmem
    · obtain ⟨rfl, rfl⟩ := Piece.link.inj heq
      exact hwhole
    · exact ih hmem
  | case3 t hparts ih =>
    rw [found_plain fun _ => hparts] at hmem
    rcases List.mem_cons.1 hmem with heq | hmem
    · cases heq
    · exact ih hmem
  | case4 c t hc ih =>
    rw [found_plain fun h => absurd h hc] at hmem
    rcases List.mem_cons.1 hmem with heq | hmem
    · cases heq
    · exact ih hmem

/-- Pieces without a bracket of their own are segments already, one by one. -/
theorem exists_segments (hwhole : AllWhole ps) (hbracket : .plain '[' ∉ ps) :
    ∃ segments : List Segment, segments.flatMap Segment.written = spell ps := by
  induction ps with
  | nil => exact ⟨[], rfl⟩
  | cons p ps ih =>
    obtain ⟨hp, hps⟩ : .plain '[' ≠ p ∧ .plain '[' ∉ ps := by simpa using hbracket
    obtain ⟨segments, hsegments⟩ := ih (fun l a h => hwhole l a (List.mem_cons_of_mem p h)) hps
    have hhead : ∃ s : Segment, s.written = p.spelled := by
      cases p with
      | plain c =>
        have hc : '[' ∉ [c] := fun h => hp (congrArg Piece.plain (List.mem_singleton.1 h))
        exact ⟨.text [c] hc, rfl⟩
      | link label address => exact ⟨.link label address (hwhole _ _ (List.mem_cons_self ..)), rfl⟩
    obtain ⟨s, hs⟩ := hhead
    exact ⟨s :: segments, by rw [List.flatMap_cons, hs, hsegments, spell_cons]⟩

/-- **Which paragraphs are made of segments**: those with no opening bracket outside of the links that are
found. -/
theorem exists_segments_iff :
    (∃ segments : List Segment, segments.flatMap Segment.written = t) ↔ .plain '[' ∉ found t := by
  constructor
  · rintro ⟨segments, rfl⟩ hmem
    rw [found_segments] at hmem
    obtain ⟨s, -, hs⟩ := List.mem_flatMap.1 hmem
    exact bracket_not_mem_pieces s hs
  · intro hbracket
    obtain ⟨segments, hsegments⟩ := exists_segments (allWhole_found t) hbracket
    exact ⟨segments, hsegments.trans (spell_found t)⟩

end Scenarist.Sentence
