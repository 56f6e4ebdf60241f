/-
  Reading inline content — from the characters of a paragraph, a heading or a cell to its nodes.

  1. The characters are read once, from left to right.  Code, HTML, autolinks and escapes are read
     whole where they start, so they bind more tightly than brackets, and brackets more tightly
     than runs of marks.

  2. A closing bracket looks at the innermost open one.  With an address after it, or a label that
     is defined, the two make a link or an image around what stands between them.  A link holds no
     other link, so the open brackets of links outside of it no longer count.

  3. A line ending breaks the line after a backslash or two spaces, and is a space otherwise.  The
     spacing around it is left out.
-/
import Scenarist.Markdown.Html
import Scenarist.Markdown.Marker
import Scenarist.Markdown.Reference
import Scenarist.Markdown.Inline.Emphasis

namespace Scenarist.Markdown

/-! ## Passages -/

/-- The characters of a paragraph, a heading or a cell, before they are read.  Lines are divided by
line feeds and keep the spacing they start with. -/
structure Passage where
  /-- The characters. -/
  glyphs : List Glyph
  /-- Whether the passage is a cell of a table. -/
  inTable : Bool := false
  deriving Repr

/-! ## Autolinks -/

/-- The address between angles, of which the first has been read, and what follows: a scheme of two
to thirty-two characters, a colon, and no blanks. -/
def uri? (t : Text) : Option (Text × Text) :=
  let scheme := t.takeWhile fun c => c.isAlphanum || c == '.' || c == '-' || c == '+'
  if !(scheme.head?.any Char.isAlpha) || scheme.length < 2 || 32 < scheme.length then none
  else
    match t.drop scheme.length with
    | ':' :: u =>
        let body := u.takeWhile fun c => 32 < c.toNat && c != '<' && c != '>'
        match u.drop body.length with
        | '>' :: rest => some (scheme ++ ':' :: body, rest)
        | _ => none
    | _ => none

/-- Whether a text is a label of a domain: up to 63 letters, digits and inner dashes. -/
def isDomainLabel (t : Text) : Bool :=
  !t.isEmpty && t.length ≤ 63 && t.head? != some '-' && t.getLast? != some '-'

/-- The mail address between angles, of which the first has been read, and what follows. -/
def mail? (t : Text) : Option (Text × Text) :=
  let user := t.takeWhile fun c => c.isAlphanum || ".!#$%&'*+/=?^_\x60\x7b|\x7d~-".toList.contains c
  match t.drop user.length with
  | '@' :: u =>
      let domain := u.takeWhile fun c => c.isAlphanum || c == '-' || c == '.'
      match u.drop domain.length with
      | '>' :: rest =>
          if !user.isEmpty && (Text.splitWhere (· == '.') domain).all isDomainLabel then
            some (user ++ '@' :: domain, rest)
          else none
      | _ => none
  | _ => none

/-! ## Code -/

/-- How many glyphs stand before the next run of exactly `n` backticks; `run` backticks came right
before, and `passed` glyphs in all. -/
def codeLength? (n run passed : Nat) : List Glyph → Option Nat
  | [] => if run = n then some (passed - n) else none
  | g :: gs =>
      if g.char = '\x60' then codeLength? n (run + 1) (passed + 1) gs
      else if run = n then some (passed - n)
      else codeLength? n 0 (passed + 1) gs

/-- A cell's text in which a backslash before a bar is left out. -/
def unescapeBars : Text → Text
  | [] => []
  | c :: t => if c = '\\' && t.head? == some '|' then unescapeBars t else c :: unescapeBars t

/-- The text of a code span: line endings as spaces, and one space off each end when both have one
and there is more than spaces. -/
def codeText (inTable : Bool) (inside : Text) : Text :=
  let t := if inTable then unescapeBars inside else inside
  let t := t.map fun c => if c = '\n' then ' ' else c
  if t.head? == some ' ' && t.getLast? == some ' ' && t.any (· != ' ') then t.tail.dropLast else t

/-! ## What stands outside brackets -/

/-- A leaf over a glyph and the `n` that follow it. -/
def leafOver (g : Glyph) (gs : List Glyph) (n : Nat) (leaf : Leaf) : Piece :=
  .node (.leaf ⟨g.pos, (spanOf g.stop (gs.take n)).stop⟩ leaf)

/-- A glyph as text. -/
def plain (g : Glyph) : Piece := .node (Inline.ofGlyph g)

/-- How many glyphs of spacing there are. -/
def spacingLength (gs : List Glyph) : Nat := (gs.takeWhile fun g => isSpacing g.char).length

/-- The piece that starts with a backslash, and how many glyphs after it belong to it. -/
def backslashPiece (inTable : Bool) (g : Glyph) (gs : List Glyph) : Piece × Nat :=
  match gs with
  | [] => (plain g, 0)
  | h :: rest =>
      if h.char = '\n' then
        let n := 1 + spacingLength rest
        (leafOver g gs n .hardBreak, n)
      else if inTable && h.char = '\\' && rest.head?.any (fun k => k.char == '|') then
        (leafOver g gs 2 (.text ['|']), 2)
      else if Text.isAsciiPunctuation h.char then (leafOver g gs 1 (.text [h.char]), 1)
      else (plain g, 0)

/-- The piece that starts with an opening angle, and how many glyphs after it belong to it. -/
def anglePiece (g : Glyph) (gs : List Glyph) : Piece × Nat :=
  let t := chars gs
  let taken := fun (rest : Text) => t.length - rest.length
  match (uri? t).or (mail? t) with
  | some (address, rest) =>
      let n := taken rest
      let stop := (spanOf g.stop (gs.take n)).stop
      let label := Inline.leaf ⟨g.stop, stop - 1⟩ (.text address)
      (.node (.group ⟨g.pos, stop⟩ (.link address) [label]), n)
  | none =>
      match afterHtml? t with
      | some rest => (leafOver g gs (taken rest) .html, taken rest)
      | none => (plain g, 0)

/-- The piece that starts with a backtick, and how many glyphs after it belong to it. -/
def codePiece (inTable : Bool) (g : Glyph) (gs : List Glyph) : Piece × Nat :=
  let more := countOf '\x60' gs
  let rest := gs.drop more
  match codeLength? (more + 1) 0 0 rest with
  | some n =>
      let all := more + n + (more + 1)
      (leafOver g gs all (.code (codeText inTable (chars (rest.take n)))), all)
  | none => (leafOver g gs more (.text (List.replicate (more + 1) '\x60')), more)

/-- The piece that starts with a mark of emphasis, and how many glyphs after it belong to it. -/
def markPiece (before : Option Char) (g : Glyph) (gs : List Glyph) : Piece × Nat :=
  let more := countOf g.char gs
  let after := (gs.drop more).head?.map Glyph.char
  let opens := MarkRun.mayOpen g.char (more + 1) before after
  let closes := MarkRun.mayClose g.char (more + 1) before after
  if (opens || closes) && (g.char != '~' || more + 1 ≤ 2) then
    (.run ⟨g.char, more + 1, g.pos, opens, closes⟩, more)
  else (leafOver g gs more (.text (List.replicate (more + 1) g.char)), more)

/-- The piece that starts with spacing or a line ending, and how many glyphs after it belong to
it. -/
def spacingPiece (g : Glyph) (gs : List Glyph) : Piece × Nat :=
  let spaces := spacingLength (g :: gs)
  match (g :: gs).drop spaces with
  | h :: rest =>
      if h.char = '\n' then
        let n := spaces + spacingLength rest
        (leafOver g gs n (if 2 ≤ spaces then .hardBreak else .softBreak), n)
      else (plain g, 0)
  | [] => (plain g, 0)

/-- The piece that starts with a glyph other than a bracket, and how many glyphs after it belong to
it; `before` is the character before it. -/
def nextPiece (inTable : Bool) (before : Option Char) (g : Glyph) (gs : List Glyph) : Piece × Nat :=
  let c := g.char
  if c = '\\' then backslashPiece inTable g gs
  else if c = '<' then anglePiece g gs
  else if c = '\x60' then codePiece inTable g gs
  else if c = '*' || c = '_' || c = '~' then markPiece before g gs
  else if c = '\n' || isSpacing c then spacingPiece g gs
  else if c = '&' then
    let t := chars gs
    match reference? t with
    | some (found, rest) =>
        let n := t.length - rest.length
        (leafOver g gs n (.text found), n)
    | none => (plain g, 0)
  else (plain g, 0)

/-! ## Brackets -/

/-- An open bracket. -/
structure Bracket where
  /-- Whether it opens an image. -/
  image : Bool
  /-- Whether it can still open a link. -/
  live : Bool := true
  /-- Its own glyphs. -/
  own : List Glyph
  /-- The glyphs after it. -/
  inside : List Glyph
  /-- The pieces before it, last first. -/
  before : List Piece

/-- The address and the rest of an inline link, whose opening parenthesis has been read. -/
def inlineAddress? (t : Text) : Option (Text × Text) := do
  let (address, rest) ← address? 32 (skipOneBreak t).2
  let rest := (skipOneBreak rest).2
  let rest := match title? rest with
    | some after => (skipOneBreak after).2
    | none => rest
  let rest ← Text.after? [')'] rest
  return (address, rest)

/-- The key of a label inside brackets. -/
def labelIn? (inTable : Bool) (t : Text) : Option (Text × Text) :=
  (label? t).map fun (key, rest) => (if inTable then unescapeBars key else key, rest)

/-- The address that a closing bracket finds for an open one, and how many of the glyphs after it
belong to the link. -/
def addressAfter? (ds : List Definition) (inTable : Bool) (b : Bracket) (gs : List Glyph) :
    Option (Text × Nat) :=
  let t := chars gs
  let inline := match t with
    | '(' :: u => (inlineAddress? u).map fun (a, rest) => (a, t.length - rest.length)
    | _ => none
  let own := fun (n : Nat) => do
    let (key, rest) ← labelIn? inTable (chars b.inside)
    let a ← addressOf? ds key
    if rest.length = t.length then some (a, n) else none
  match inline with
  | some found => some found
  | none =>
      match t with
      | '[' :: ']' :: _ => own 2
      | '[' :: u =>
          match labelIn? inTable u with
          | some (key, rest) => (addressOf? ds key).map fun a => (a, t.length - rest.length)
          | none => own 0
      | _ => own 0

/-- An open bracket that opened nothing, as text before the pieces that follow it, last first. -/
def Bracket.asText (b : Bracket) (out : List Piece) : List Piece :=
  out ++ (b.own.map plain).reverse ++ b.before

/-- The pieces of a passage.  `before` is the character before the glyphs, `brackets` are the open
brackets, innermost first, and `out` the pieces since the innermost, last first. -/
def readPieces (ds : List Definition) (inTable : Bool) (before : Option Char)
    (brackets : List Bracket) (out : List Piece) : List Glyph → List Piece
  | [] => (brackets.foldl (fun out b => b.asText out) out).reverse
  | g :: gs =>
      if g.char = '[' then
        readPieces ds inTable (some '[') (⟨false, true, [g], gs, out⟩ :: brackets) [] gs
      else if g.char = '!' && gs.head?.any (fun h => h.char == '[') then
        readPieces ds inTable (some '[')
          (⟨true, true, g :: gs.take 1, gs.drop 1, out⟩ :: brackets) [] (gs.drop 1)
      else if g.char = ']' then
        match brackets with
        | [] => readPieces ds inTable (some ']') [] (plain g :: out) gs
        | b :: bs =>
            match if b.live then addressAfter? ds inTable b gs else none with
            | some (address, n) =>
                let first := (spanOf g.pos b.own).first
                let stop := (spanOf g.stop (gs.take n)).stop
                let kind := if b.image then Group.image address else .link address
                let node := Inline.group ⟨first, stop⟩ kind (pairRuns out.reverse)
                let bs := if b.image then bs
                  else bs.map fun o => if o.image then o else { o with live := false }
                let last := ((gs.take n).getLast?.map Glyph.char).getD ']'
                readPieces ds inTable (some last) bs (.node node :: b.before) (gs.drop n)
            | none => readPieces ds inTable (some ']') bs (plain g :: b.asText out) gs
      else
        let (piece, n) := nextPiece inTable before g gs
        let last := ((gs.take n).getLast?.map Glyph.char).getD g.char
        readPieces ds inTable (some last) brackets (piece :: out) (gs.drop n)
termination_by gs => gs.length
decreasing_by all_goals (simp only [List.length_drop, List.length_cons]; omega)

/-- The inline content of a passage, under the definitions of its page. -/
def Passage.read (ds : List Definition) (p : Passage) : List Inline :=
  pairRuns (readPieces ds p.inTable none [] [] (trimSpacingEnd p.glyphs))

end Scenarist.Markdown
