/-
  Documents — no text stands loose at the top of a document.

  Plain content comes from paragraphs in the items of tight lists, and those are inside a list.  So
  what is put to the parts of a document itself is never plain, line after line (`LaidOut`).
-/
import Scenarist.Markdown.Event

namespace Scenarist.Markdown

/-- Whether a part is loose text. -/
def Part.isPlain {α : Type} : Part α → Bool
  | .plain _ => true
  | _ => false

theorem isPlain_map {α β : Type} (f : α → β) (p : Part α) : (p.map f).isPlain = p.isPlain := by
  cases p <;> rw [Part.map] <;> rfl

theorem mapParts_eq_map {α β : Type} (f : α → β) (ps : List (Part α)) :
    mapParts f ps = ps.map (Part.map f) := by
  induction ps with
  | nil => rw [mapParts, List.map_nil]
  | cons p ps ih => rw [mapParts, ih, List.map_cons]

namespace Layout

/-- No part outside of all frames is plain. -/
def LaidOut (l : Layout) : Prop := ∀ p ∈ l.done, p.isPlain = false

variable {l : Layout} {p : Part Passage}

theorem laidOut_add (hl : l.LaidOut) (hp : p.isPlain = false) : (l.add p).LaidOut := by
  unfold add
  split
  · exact List.forall_mem_cons.2 ⟨hp, hl⟩
  · exact hl
  · exact hl

theorem laidOut_closeIdle (hl : l.LaidOut) (stop : Nat) : (l.closeIdle stop).LaidOut := by
  unfold closeIdle
  split
  · exact hl
  · exact laidOut_add hl rfl

theorem laidOut_closeFrame (hl : l.LaidOut) (stop : Nat) : (l.closeFrame stop).LaidOut := by
  have hidle := laidOut_closeIdle hl stop
  unfold closeFrame
  dsimp only
  split
  · exact hidle
  · exact laidOut_add hidle rfl
  · exact hidle

theorem laidOut_closeFrames (stop n : Nat) : ∀ {l : Layout}, l.LaidOut →
    (closeFrames stop n l).LaidOut := by
  induction n with
  | zero => exact fun hl => hl
  | succ n ih => exact fun hl => ih (laidOut_closeFrame hl stop)

theorem laidOut_settle (hl : l.LaidOut) : l.settle.LaidOut := by
  unfold settle
  dsimp only
  split
  · split
    · exact laidOut_closeFrame hl _
    · exact hl
  · exact hl

theorem laidOut_loosen (hl : l.LaidOut) : l.loosen.LaidOut := by
  unfold loosen
  split
  · split <;> exact hl
  · exact hl

theorem laidOut_endList (hl : l.LaidOut) (stop : Nat) : (l.endList stop).LaidOut :=
  laidOut_loosen (laidOut_closeIdle (laidOut_settle hl) stop)

theorem laidOut_openItem (hl : l.LaidOut) (m : ItemMark) (start indent : Nat) :
    (l.openItem m start indent).LaidOut := by
  have hsettled := laidOut_settle hl
  unfold openItem
  dsimp only
  split
  · exact hsettled
  · exact laidOut_endList hsettled start

theorem laidOut_blank (hl : l.LaidOut) : l.blank.LaidOut := by
  unfold blank
  split <;> exact hl

theorem laidOut_openMarks (line : Line) (fuel : Nat) : ∀ {l : Layout} (c : Cursor), l.LaidOut →
    (openMarks line fuel l c).1.LaidOut := by
  induction fuel with
  | zero => exact fun c hl => hl
  | succ fuel ih =>
    intro l c hl
    unfold openMarks
    dsimp only
    split
    · exact hl
    · split
      · split
        · exact laidOut_openItem hl _ _ _
        · exact ih _ (laidOut_openItem hl _ _ _)
      · split
        · exact ih _ (laidOut_endList hl _)
        · exact hl

theorem isPlain_of_paragraph {line : Line} {c : Cursor} {rest : List Line} {n : Nat}
    (h : l.paragraph line c rest = (.part p, n)) : p.isPlain = false := by
  unfold paragraph at h
  dsimp only at h
  split at h
  · cases h
    rfl
  · split at h
    · cases h
    · split at h <;> cases h <;> rfl

/-- What a line starts is never plain. -/
theorem isPlain_of_leaf {line : Line} {c : Cursor} {rest : List Line} {n : Nat}
    (h : l.leaf line c rest = (.part p, n)) : p.isPlain = false := by
  unfold leaf at h
  dsimp only at h
  split at h
  · cases h
    rfl
  · split at h
    · cases h
      rfl
    · split at h
      · cases h
        rfl
      · split at h
        · cases h
          rfl
        · cases h
          rfl
        · exact isPlain_of_paragraph h

theorem laidOut_line (hl : l.LaidOut) (line : Line) (rest : List Line) :
    (l.line line rest).1.LaidOut := by
  have hopen := laidOut_openMarks line (l.enter line).2.rest.length (l.enter line).2
    (laidOut_closeFrames line.start (l.frames.length - (l.enter line).1) hl)
  unfold Layout.line
  dsimp only
  split
  · next m hm =>
    rw [hm] at hopen
    exact hopen
  · next m c hm =>
    rw [hm] at hopen
    split
    · exact laidOut_blank hopen
    · have hended := laidOut_endList hopen line.start
      split
      · next p n hp => exact laidOut_add hended (isPlain_of_leaf hp)
      · exact hended

theorem laidOut_lines {l : Layout} (hl : l.LaidOut) (ls : List Line) : (l.lines ls).LaidOut := by
  fun_induction Layout.lines l ls with
  | case1 l => exact hl
  | case2 l line rest l' n hline ih =>
    have h := laidOut_line hl line rest
    rw [hline] at h
    exact ih h

theorem isPlain_of_mem_finish (hl : l.LaidOut) (stop : Nat) (h : p ∈ l.finish stop) :
    p.isPlain = false :=
  laidOut_closeIdle (laidOut_closeFrames stop l.frames.length hl) stop p (List.mem_reverse.1 h)

end Layout

/-- No part of a document is plain. -/
theorem isPlain_of_mem_document {source : Text} {p : Part (List Inline)} (h : p ∈ document source) :
    p.isPlain = false := by
  have hstart : ({} : Layout).LaidOut := fun _ h => absurd h List.not_mem_nil
  have hlines := Layout.laidOut_lines hstart (sourceLines 0 source)
  unfold document at h
  dsimp only at h
  rw [mapParts_eq_map] at h
  obtain ⟨q, hq, rfl⟩ := List.mem_map.1 h
  rw [isPlain_map]
  exact Layout.isPlain_of_mem_finish hlines _ hq

end Scenarist.Markdown
