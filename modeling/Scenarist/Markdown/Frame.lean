/-
  Frames — the quotes and lists that are open while a document is laid out.

  1. A frame is a quote or an item; each line first tries to go on with the frames, the outermost
     first.  An item that a line does not go on with is closed, but its list stays `idle`: the next
     thing to come may be a further item of it.

  2. A list is tight unless a blank line stands between two of its items or between two parts of an
     item.  `blankBefore` remembers a blank line until it is known what comes after it.

  3. An item may start with at most one blank line.  `freshItem` is where the line ends that opened
     an item and had nothing after the mark.
-/
import Scenarist.Markdown.Part

namespace Scenarist.Markdown

/-- A list that may get further items. -/
structure OpenList where
  /-- Where the list starts. -/
  start : Nat
  /-- The mark of its first item. -/
  mark : ItemMark
  /-- Whether no blank line has loosened it. -/
  tight : Bool
  /-- Its items, last first. -/
  items : List (Item Passage)
  deriving Repr

/-- The list as a part, when it ends. -/
def OpenList.close (l : OpenList) (stop : Nat) : Part Passage :=
  let items := if l.tight then l.items.map Item.tighten else l.items
  .list ⟨l.start, stop⟩ l.mark.number items.reverse

/-- A quote or an item that is open, with its parts, last first. -/
inductive Frame where
  /-- A quote. -/
  | quote (start : Nat) (parts : List (Part Passage))
  /-- An item of a list, whose further lines are indented. -/
  | item (list : OpenList) (start indent : Nat) (parts : List (Part Passage))
  deriving Repr

/-- What is left of a line that goes on with a frame. -/
def Frame.enter? (f : Frame) (c : Cursor) : Option Cursor :=
  match f with
  | .quote _ _ => (c.readSpaces 3).2.quoteMark?
  | .item _ _ indent _ =>
      let (n, d) := c.readSpaces indent
      if n = indent || d.atEnd then some d else none

/-- How many of the frames, the outermost first, a line goes on with, and what is left of it. -/
def enterFrames : List Frame → Cursor → Nat × Cursor
  | [], c => (0, c)
  | f :: fs, c =>
      match f.enter? c with
      | some d =>
          let (n, e) := enterFrames fs d
          (n + 1, e)
      | none => (0, c)

/-- A document of which some lines have been laid out. -/
structure Layout where
  /-- The open frames, innermost first. -/
  frames : List Frame := []
  /-- The list inside of them whose last item is closed. -/
  idle : Option OpenList := none
  /-- The parts outside of all frames, last first. -/
  done : List (Part Passage) := []
  /-- The definitions, last first. -/
  definitions : List Definition := []
  /-- Whether a blank line came last. -/
  blankBefore : Bool := false
  /-- Where the line ends that opened an item with nothing in it. -/
  freshItem : Option Nat := none
  deriving Repr

namespace Layout

/-- How many frames a line goes on with, and what is left of it. -/
def enter (l : Layout) (line : Line) : Nat × Cursor :=
  enterFrames l.frames.reverse (Cursor.ofLine line)

/-- What is left of a line that goes on with all frames. -/
def inside? (l : Layout) (line : Line) : Option Cursor :=
  let (n, c) := l.enter line
  if n = l.frames.length then some c else none

/-- Puts a part into the innermost frame. -/
def add (l : Layout) (p : Part Passage) : Layout :=
  match l.frames with
  | [] => { l with done := p :: l.done }
  | .quote s ps :: fs => { l with frames := .quote s (p :: ps) :: fs }
  | .item li s n ps :: fs => { l with frames := .item li s n (p :: ps) :: fs }

/-- Ends the idle list. -/
def closeIdle (stop : Nat) (l : Layout) : Layout :=
  match l.idle with
  | none => l
  | some li =>
      let l := { l with idle := none, freshItem := if li.tight then none else l.freshItem }
      l.add (li.close stop)

/-- Ends the innermost frame. -/
def closeFrame (stop : Nat) (l : Layout) : Layout :=
  let l := l.closeIdle stop
  match l.frames with
  | [] => l
  | .quote s ps :: fs => { l with frames := fs }.add (.quote ⟨s, stop⟩ ps.reverse)
  | .item li s _ ps :: fs =>
      { l with
        frames := fs
        idle := some { li with items := .mk ⟨s, stop⟩ ps.reverse :: li.items } }

/-- Ends the `n` innermost frames. -/
def closeFrames (stop : Nat) : Nat → Layout → Layout
  | 0, l => l
  | n + 1, l => closeFrames stop n (l.closeFrame stop)

/-- Ends all frames and gives the parts of the document. -/
def finish (stop : Nat) (l : Layout) : List (Part Passage) :=
  ((l.closeFrames stop l.frames.length).closeIdle stop).done.reverse

/-- Ends an item that has started with two blank lines. -/
def settle (l : Layout) : Layout :=
  let l := match l.freshItem, l.idle, l.frames with
    | some stop, none, .item _ _ _ _ :: _ => if l.blankBefore then l.closeFrame stop else l
    | _, _, _ => l
  { l with freshItem := none }

/-- Makes the list of the innermost item loose if a blank line came last. -/
def loosen (l : Layout) : Layout :=
  if l.blankBefore then
    match l.frames with
    | .item li s n ps :: fs =>
        { l with frames := .item { li with tight := false } s n ps :: fs, blankBefore := false }
    | _ => { l with blankBefore := false }
  else l

/-- Makes ready for something that is no item: the idle list ends. -/
def endList (stop : Nat) (l : Layout) : Layout := (l.settle.closeIdle stop).loosen

/-- Opens a quote. -/
def openQuote (start : Nat) (l : Layout) : Layout :=
  { l with frames := .quote start [] :: l.frames }

/-- Opens an item, of the idle list if the mark has the same sign and of a new list otherwise. -/
def openItem (m : ItemMark) (start indent : Nat) (l : Layout) : Layout :=
  let l := l.settle
  let same := l.idle.filter fun li => li.mark.sign == m.sign
  match same with
  | some li =>
      let li := { li with tight := li.tight && !l.blankBefore }
      { l with frames := .item li start indent [] :: l.frames, idle := none, blankBefore := false }
  | none =>
      let l := l.endList start
      let li : OpenList := ⟨start, m, true, []⟩
      { l with frames := .item li start indent [] :: l.frames, blankBefore := false }

/-- Takes a blank line. -/
def blank (l : Layout) : Layout :=
  match l.idle, l.frames with
  | none, .quote _ _ :: _ => l
  | none, .item li s n ps :: fs =>
      let n := if l.freshItem.isSome then 0 else n
      { l with frames := .item li s n ps :: fs, blankBefore := true }
  | _, _ => { l with blankBefore := true }

end Layout

end Scenarist.Markdown
