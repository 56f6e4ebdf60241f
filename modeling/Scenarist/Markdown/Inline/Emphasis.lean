/-
  Emphasis — how runs of `*`, `_` and `~` pair up.

  1. A run may open if content follows it, and may close if content comes before it.  A star may
     do either inside a word, and so may a pair of tildes; an underscore or a lone tilde may not.

  2. A closing run looks for the nearest open run that fits.  Runs in between become text.  The two
     share as many marks as both have, taken in twos from the inside (strong) and a last one alone
     (emphasis).  Marks that are left go on looking.

  3. If one of two runs can both open and close, they do not fit when their lengths add up to a
     multiple of three, unless both lengths are such.  Tildes fit only runs of their own length,
     and a run of tildes that finds no partner ends the search for all that are open.
-/
import Scenarist.Markdown.Inline.Basic
import Scenarist.Text.Punctuation

namespace Scenarist.Markdown

/-! ## Runs -/

/-- A run of one mark. -/
structure MarkRun where
  /-- The mark. -/
  mark : Char
  /-- How many marks the run has. -/
  length : Nat
  /-- The byte of the first mark. -/
  pos : Nat
  /-- Whether the run may open emphasis. -/
  opens : Bool
  /-- Whether the run may close emphasis. -/
  closes : Bool
  deriving DecidableEq, Repr

namespace MarkRun

/-- Whether a run of the mark may open or close next to a letter on its other side. -/
def worksInWords (mark : Char) (length : Nat) : Bool := mark == '*' || (mark == '~' && 1 < length)

/-- Whether a run between two characters may open; `none` is the edge of the content. -/
def mayOpen (mark : Char) (length : Nat) (before after : Option Char) : Bool :=
  match before, after with
  | _, none => false
  | none, some c => !Text.isBlank c
  | some b, some c =>
      !Text.isBlank c
        && ((worksInWords mark length && !Text.isPunctuation c)
          || Text.isBlank b || Text.isPunctuation b)

/-- Whether a run between two characters may close; `none` is the edge of the content. -/
def mayClose (mark : Char) (length : Nat) (before after : Option Char) : Bool :=
  match before, after with
  | none, _ => false
  | some b, none => !Text.isBlank b
  | some b, some c =>
      !Text.isBlank b
        && ((worksInWords mark length && !Text.isPunctuation b)
          || Text.isBlank c || Text.isPunctuation c)

end MarkRun

/-- Inline content before its runs are paired. -/
inductive Piece where
  /-- A finished node. -/
  | node (inline : Inline)
  /-- A run that may open or close emphasis. -/
  | run (run : MarkRun)
  deriving Repr

/-! ## Pairing -/

/-- `n` marks as text, the first of them at `pos`. -/
def markTexts (mark : Char) (pos : Nat) : Nat → List Inline
  | 0 => []
  | n + 1 => Inline.ofGlyph ⟨mark, pos⟩ :: markTexts mark (pos + 1) n

/-- An open run and the content after it. -/
structure OpenRun where
  /-- The run. -/
  run : MarkRun
  /-- How many of its marks are still open. -/
  count : Nat
  /-- Whether closing runs may still find it. -/
  live : Bool := true
  /-- The content since, last node first. -/
  content : List Inline := []

/-- The state of pairing: open runs, innermost first, and the content before the outermost, last
node first. -/
structure Pairing where
  /-- The open runs, innermost first. -/
  runs : List OpenRun := []
  /-- The content before them, last node first. -/
  base : List Inline := []

namespace OpenRun

/-- An open run that found no partner, as text and the content after it, last node first. -/
def asText (r : OpenRun) : List Inline :=
  r.content ++ (markTexts r.run.mark r.run.pos r.count).reverse

/-- Whether an open run fits a closing run. -/
def fits (closing : MarkRun) (r : OpenRun) : Bool :=
  let both := closing.opens && closing.closes
  let sum := closing.length + r.run.length
  r.live && r.run.mark == closing.mark
    && (closing.mark != '~' || r.run.length == closing.length)
    && ((!both && !(r.run.opens && r.run.closes)) || sum % 3 != 0 || closing.length % 3 == 0)

end OpenRun

namespace Pairing

/-- More content, last node first. -/
def add (p : Pairing) (nodes : List Inline) : Pairing :=
  match p.runs with
  | [] => { p with base := nodes ++ p.base }
  | r :: rs => { p with runs := { r with content := nodes ++ r.content } :: rs }

/-- Content inside `n` marks on either side, which end at `before` and start at `after`. -/
def wrap (mark : Char) (before after : Nat) : Nat → List Inline → List Inline
  | 0, parts => parts
  | 1, parts =>
      let kind := if mark = '~' then Group.strikethrough else .emphasis
      [.group ⟨before - 1, after + 1⟩ kind parts]
  | n + 2, parts =>
      let kind := if mark = '~' then Group.strikethrough else .strong
      wrap mark (before - 2) (after + 2) n [.group ⟨before - 2, after + 2⟩ kind parts]

/-- The nearest open run that fits, with the runs inside and outside of it. -/
def partner? (closing : MarkRun) : List OpenRun → Option (List OpenRun × OpenRun × List OpenRun)
  | [] => none
  | r :: rs =>
      if r.fits closing then some ([], r, rs)
      else (partner? closing rs).map fun (inner, found, outer) => (r :: inner, found, outer)

/-- No closing run of tildes finds the runs of tildes that are open now. -/
def retireTildes (p : Pairing) : Pairing :=
  { p with runs := p.runs.map fun r => if r.run.mark = '~' then { r with live := false } else r }

/-- Pairs the last `count` marks of a closing run, the first of them at `pos`, and gives how many
marks are left and where.  At most `fuel` partners are found. -/
def close (closing : MarkRun) : Nat → Nat → Nat → Pairing → Nat × Nat × Pairing
  | 0, count, pos, p => (count, pos, p)
  | fuel + 1, count, pos, p =>
      if count = 0 then (0, pos, p)
      else
        match partner? closing p.runs with
        | none => (count, pos, if closing.mark = '~' then p.retireTildes else p)
        | some (inner, r, outer) =>
            let n := min count r.count
            let parts := Inline.joinTexts (inner.flatMap OpenRun.asText ++ r.content).reverse
            let wrapped := wrap closing.mark (r.run.pos + r.count) pos n parts
            let rest : Pairing := { p with runs := outer }
            let p :=
              if n < r.count then
                { p with runs := { r with count := r.count - n, content := wrapped } :: outer }
              else rest.add wrapped
            close closing fuel (count - n) (pos + n) p

/-- The state after one more piece. -/
def take (p : Pairing) : Piece → Pairing
  | .node inline => p.add [inline]
  | .run r =>
      let (count, pos, p) := if r.closes then close r r.length r.length r.pos p
        else (r.length, r.pos, p)
      if count = 0 then p
      else if r.opens then { p with runs := ⟨{ r with pos := pos }, count, true, []⟩ :: p.runs }
      else p.add (markTexts r.mark pos count).reverse

/-- The content at the end: runs that are still open are text. -/
def finish (p : Pairing) : List Inline :=
  Inline.joinTexts (p.runs.flatMap OpenRun.asText ++ p.base).reverse

end Pairing

/-- The nodes of some pieces, with their runs paired. -/
def pairRuns (pieces : List Piece) : List Inline := (pieces.foldl Pairing.take {}).finish

end Scenarist.Markdown
