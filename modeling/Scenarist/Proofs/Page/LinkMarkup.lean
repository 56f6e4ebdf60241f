/-
  Link markup — what the reader writes for links, and whether `Sentence.unlink` undoes it.

  1. **Pieces.**  `pieces` reads inline content off its tree: every link whose label and address
     unwrap cleanly is one piece, everything else is single characters.

  2. **What is written.**  The reader writes the pieces: with markup it spells them, without markup
     it writes what is seen of them (`leafText_paragraph`).  Links that stand inside others are on
     the stack of the reader, so the induction on the tree leaves the stack free.

  3. **What is undone.**  Exactly those links are found again if no opening bracket of the text
     makes a link of what comes after it; then a clean paragraph is its visible text
     (`markup_undone`).  Such a bracket does lose its place (`markup_strayBracket`): whether a link
     unwraps cleanly is decided by its label and address, the text before it has no say.
-/
import Scenarist.Page.Reading
import Scenarist.Proofs.Outline.Links

namespace Scenarist.Reading

open Markdown (Inline Leaf Group Located Span inlineEvents)
open Sentence (Piece Whole AllWhole NoStray spell visible found)

/-! ## Pieces -/

/-- The characters of a leaf. -/
def leafChars : Leaf → Text
  | .text t => t
  | .code t => t
  | .softBreak => [' ']
  | .hardBreak => ['\n']
  | .html => []

/-- The pieces of a group around the given pieces. -/
def groupPieces (inner : List Piece) : Group → List Piece
  | .link address =>
      if unwrapsCleanly (spell inner) address then [.link (spell inner) address] else inner
  | _ => inner

mutual

/-- The pieces of a node. -/
def nodePieces : Inline → List Piece
  | .leaf _ leaf => (leafChars leaf).map .plain
  | .group _ kind parts => groupPieces (pieces parts) kind

/-- The pieces of inline content. -/
def pieces : List Inline → List Piece
  | [] => []
  | node :: nodes => nodePieces node ++ pieces nodes

end

variable {label address : Text}

theorem unwrapsCleanly_iff : unwrapsCleanly label address = true ↔ Whole label address := by
  constructor
  · intro h
    simp only [unwrapsCleanly, Bool.and_eq_true, Bool.not_eq_true', List.isEmpty_eq_false_iff,
      List.any_eq_false, beq_iff_eq] at h
    obtain ⟨⟨⟨hlabel, hclose⟩, haddress⟩, hparen⟩ := h
    exact ⟨hlabel, fun hm => hclose _ hm rfl, haddress, fun hm => hparen _ hm rfl⟩
  · intro h
    simp only [unwrapsCleanly, Bool.and_eq_true, Bool.not_eq_true', List.isEmpty_eq_false_iff,
      List.any_eq_false, beq_iff_eq]
    refine ⟨⟨⟨h.label_ne_nil, ?_⟩, h.address_ne_nil⟩, ?_⟩
    · rintro c hc rfl
      exact h.not_mem_label hc
    · rintro c hc rfl
      exact h.not_mem_address hc

theorem allWhole_append {ps qs : List Piece} (hps : AllWhole ps) (hqs : AllWhole qs) :
    AllWhole (ps ++ qs) := by
  intro label address h
  rcases List.mem_append.1 h with h | h
  · exact hps label address h
  · exact hqs label address h

theorem allWhole_groupPieces {inner : List Piece} (h : AllWhole inner) (kind : Group) :
    AllWhole (groupPieces inner kind) := by
  cases kind with
  | link address =>
    rw [groupPieces]
    split
    · next hclean =>
      intro l a hla
      obtain ⟨rfl, rfl⟩ : l = spell inner ∧ a = address := by simpa using hla
      exact unwrapsCleanly_iff.1 hclean
    · exact h
  | _ => exact h

mutual

theorem allWhole_nodePieces : ∀ node, AllWhole (nodePieces node)
  | .leaf _ leaf => by
    intro label address h
    rw [nodePieces] at h
    obtain ⟨c, -, hc⟩ := List.mem_map.1 h
    cases hc
  | .group _ kind parts => by
    rw [nodePieces]
    exact allWhole_groupPieces (allWhole_pieces parts) kind

/-- Every link that the reader writes with markup ends where it should. -/
theorem allWhole_pieces : ∀ nodes, AllWhole (pieces nodes)
  | [] => by
    intro label address h
    rw [pieces] at h
    exact absurd h List.not_mem_nil
  | node :: nodes => by
    rw [pieces]
    exact allWhole_append (allWhole_nodePieces node) (allWhole_pieces nodes)

end

/-! ## What is written -/

/-- The text that the reader writes for pieces. -/
def written (style : LinkStyle) (ps : List Piece) : Text :=
  match style with
  | .markup => spell ps
  | .label => visible ps

theorem written_append (style : LinkStyle) (ps qs : List Piece) :
    written style (ps ++ qs) = written style ps ++ written style qs := by
  cases style with
  | markup => exact Sentence.spell_append ps qs
  | label => exact Sentence.visible_append ps qs

theorem written_plain (style : LinkStyle) (t : Text) : written style (t.map .plain) = t := by
  cases style with
  | markup => exact Sentence.spell_plain t
  | label => exact Sentence.visible_plain t

/-- A link is written around its pieces as it is made a piece of. -/
theorem linkText_written (style : LinkStyle) (inner : List Piece) (address : Text) :
    linkText style (written style inner) address
      = written style (groupPieces inner (.link address)) := by
  rw [groupPieces]
  cases hclean : unwrapsCleanly (spell inner) address with
  | true =>
    cases style with
    | markup => simp [linkText, written, hclean, Piece.spelled]
    | label =>
      -- the label holds no link with markup, so it is seen as it is spelled
      have hseen := Sentence.visible_eq_spell (unwrapsCleanly_iff.1 hclean).not_mem_label
      simp [linkText, written, Piece.seen, hseen]
  | false => cases style <;> simp [linkText, written, hclean]

mutual

theorem inlineText_node (style : LinkStyle) (rest : List Located) :
    ∀ (node : Inline) (links : List OpenLink) (text : Text),
      inlineText style links text (node.events ++ rest)
        = inlineText style links (text ++ written style (nodePieces node)) rest
  | .leaf span leaf, links, text => by
    rw [nodePieces, written_plain]
    cases leaf <;> simp [Inline.events, Leaf.event, inlineText, leafChars]
  | .group span kind parts, links, text => by
    have ih := fun links text rest => inlineText_nodes style rest parts links text
    have hevents : (Inline.group span kind parts).events ++ rest
        = (.start kind.tag, span)
          :: (inlineEvents parts ++ (.finish kind.tag.finish, span) :: rest) := by
      simp [Inline.events, Markdown.around]
    rw [hevents, nodePieces]
    cases kind with
    | link address =>
      -- the link waits on the stack with the text before it, and its parts are written to no text
      show inlineText style (⟨text, address⟩ :: links) [] (inlineEvents parts ++ _) = _
      rw [ih, List.nil_append, ← linkText_written]
      rfl
    | _ =>
      show inlineText style links text (inlineEvents parts ++ _) = _
      rw [ih]
      rfl

/-- The reader writes the pieces of inline content after what it has written before. -/
theorem inlineText_nodes (style : LinkStyle) (rest : List Located) :
    ∀ (nodes : List Inline) (links : List OpenLink) (text : Text),
      inlineText style links text (inlineEvents nodes ++ rest)
        = inlineText style links (text ++ written style (pieces nodes)) rest
  | [], links, text => by
    rw [pieces, inlineEvents]
    cases style <;> simp [written]
  | node :: nodes, links, text => by
    rw [pieces, inlineEvents, List.append_assoc, inlineText_node, inlineText_nodes,
      written_append, List.append_assoc]

end

/-- **What is written.**  A paragraph is read as the text of its pieces, up to its end. -/
theorem leafText_paragraph (style : LinkStyle) (nodes : List Inline) (span : Span)
    (rest : List Located) :
    leafText style .paragraph (inlineEvents nodes ++ (.finish .paragraph, span) :: rest)
      = (written style (pieces nodes), rest) := by
  rw [leafText, inlineText_nodes, List.nil_append]
  rfl

/-! ## What is undone -/

/-- **Undoing link markup.**  A paragraph with markup spells its pieces, one without shows them.
The extractor finds in it just the links that the reader wrote, at their places, exactly when none
of its own opening brackets is a stray one; then a clean paragraph is its visible text. -/
theorem markup_undone (nodes : List Inline) (span : Span) (rest : List Located) :
    let es := inlineEvents nodes ++ (.finish .paragraph, span) :: rest
    let markup := (leafText .markup .paragraph es).1
    let shown := (leafText .label .paragraph es).1
    markup = spell (pieces nodes) ∧ shown = visible (pieces nodes)
      ∧ (found markup = pieces nodes ↔ NoStray (pieces nodes))
      ∧ (NoStray (pieces nodes) →
          Sentence.clean markup = Text.trim (Sentence.dropBreaks shown)) := by
  intro es markup shown
  have hmarkup : markup = spell (pieces nodes) :=
    congrArg Prod.fst (leafText_paragraph .markup nodes span rest)
  have hshown : shown = visible (pieces nodes) :=
    congrArg Prod.fst (leafText_paragraph .label nodes span rest)
  have hfound := Sentence.found_spell_iff (allWhole_pieces nodes)
  rw [← hmarkup] at hfound
  refine ⟨hmarkup, hshown, hfound, fun hstray => ?_⟩
  -- what `unlink` keeps is what is seen of the links it finds
  have hunlink : Sentence.unlink markup = shown := by
    rw [← Sentence.visible_found, hfound.2 hstray, hshown]
  rw [Sentence.clean, hunlink]

/-- A paragraph that reads `Given [x] opens label`, where `label` is a link. -/
def closedBracket : List Inline :=
  [.leaf ⟨0, 16⟩ (.text "Given [x] opens ".toList),
    .group ⟨16, 29⟩ (.link "dest".toList) [.leaf ⟨17, 22⟩ (.text "label".toList)]]

theorem markup_undone_closedBracket :
    NoStray (pieces closedBracket)
      ∧ Sentence.clean
          (leafText .markup .paragraph
            (inlineEvents closedBracket ++ [(.finish .paragraph, ⟨0, 30⟩)])).1
        = "Given [x] opens label".toList := by
  obtain ⟨-, -, hfound, hclean⟩ := markup_undone closedBracket ⟨0, 30⟩ []
  have hstray : NoStray (pieces closedBracket) := hfound.1 (by decide +kernel)
  refine ⟨hstray, (hclean hstray).trans ?_⟩
  decide +kernel

/-- A paragraph that reads `Given [x label`, where `label` is a link. -/
def openBracket : List Inline :=
  [.leaf ⟨0, 10⟩ (.text "Given [x ".toList),
    .group ⟨10, 23⟩ (.link "dest".toList) [.leaf ⟨11, 16⟩ (.text "label".toList)]]

/-- The link unwraps cleanly by itself, but the bracket before it is taken for its start. -/
theorem markup_strayBracket :
    let es := inlineEvents openBracket ++ [(.finish .paragraph, ⟨0, 24⟩)]
    let clean := Sentence.clean (leafText .markup .paragraph es).1
    let shown := Text.trim (Sentence.dropBreaks (leafText .label .paragraph es).1)
    clean = "Given x [label".toList ∧ shown = "Given [x label".toList ∧ clean ≠ shown := by
  decide +kernel

end Scenarist.Reading
