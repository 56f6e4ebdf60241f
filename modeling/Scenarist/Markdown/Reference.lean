/-
  References — link labels, addresses and titles, and the definitions that give a label an address.

  1. `rawLabel?` reads what stands between brackets.  Two labels are the same when `labelKey` is:
     blanks count as one space and case does not count.

  2. `address?` reads an address, in angles or bare.  A bare address ends at a blank or a control
     character, and its parentheses balance.

  3. `definition?` reads a definition off the front of a paragraph: `[label]: address "title"`, up
     to the end of a line.
-/
import Scenarist.Text.Case
import Scenarist.Text.Number
import Scenarist.Text.Punctuation
import Scenarist.Markdown.EntityTable
import Scenarist.Markdown.Source

namespace Scenarist.Markdown

/-! ## Character references -/

/-- The character of a code point, if there is one; zero gives the replacement character. -/
def charOfPoint? (n : Nat) : Option Char :=
  if n = 0 then some '\uFFFD' else if n.isValidChar then some (Char.ofNat n) else none

/-- The numeric reference at the front of a text, after its `&#`: the character and the rest. -/
def numericReference? (t : Text) : Option (Text × Text) :=
  let (isDigit, base, most, t) : (Char → Bool) × Nat × Nat × Text := match t with
    | 'x' :: u => (Text.isHexDigit, 16, 6, u)
    | 'X' :: u => (Text.isHexDigit, 16, 6, u)
    | _ => (Char.isDigit, 10, 7, t)
  let digits := (t.take most).takeWhile isDigit
  match digits.isEmpty, t.drop digits.length with
  | false, ';' :: rest => (charOfPoint? (Text.numeral base digits)).map fun c => ([c], rest)
  | _, _ => none

/-- The character reference at the front of a text, after its ampersand: what it stands for, and
the rest. -/
def reference? (t : Text) : Option (Text × Text) :=
  match t with
  | '#' :: u => numericReference? u
  | _ =>
      let name := t.takeWhile Char.isAlphanum
      match t.drop name.length with
      | ';' :: rest => (EntityTable.find? name).map fun found => (found, rest)
      | _ => none

/-- A text with its backslash escapes and character references put in.  At most `fuel` characters
are read. -/
def unescapeWithin : Nat → Text → Text
  | 0, t => t
  | _, [] => []
  | fuel + 1, c :: t =>
      if c = '\\' && t.head?.any Text.isAsciiPunctuation then
        t.take 1 ++ unescapeWithin fuel (t.drop 1)
      else if c = '&' then
        match reference? t with
        | some (found, rest) => found ++ unescapeWithin fuel rest
        | none => c :: unescapeWithin fuel t
      else c :: unescapeWithin fuel t

/-- A text with its backslash escapes and character references put in. -/
def unescape (t : Text) : Text := unescapeWithin t.length t

/-! ## Labels -/

/-- The label whose opening bracket has been read, and what follows its closing bracket. -/
def rawLabel? : Text → Option (Text × Text)
  | [] => none
  | ']' :: t => some ([], t)
  | '[' :: _ => none
  | '\\' :: c :: t => (rawLabel? t).map fun (label, rest) => ('\\' :: c :: label, rest)
  | c :: t => (rawLabel? t).map fun (label, rest) => (c :: label, rest)

/-- The form in which labels are compared: case folded, and blanks as single spaces. -/
def labelKey (label : Text) : Text :=
  let words := (Text.splitWhere isAsciiBlank label).filter fun w => !w.isEmpty
  Text.caseless (List.intercalate [' '] words)

/-- The longest label, in characters. -/
def maxLabelLength : Nat := 999

/-- The key of the label whose opening bracket has been read, and what follows its closing bracket;
a blank label and one that is too long do not count. -/
def label? (t : Text) : Option (Text × Text) :=
  match rawLabel? t with
  | some (label, rest) =>
      if label.all isAsciiBlank || maxLabelLength < label.length then none
      else some (labelKey label, rest)
  | none => none

/-! ## Addresses and titles -/

/-- Whether a character is taken literally: punctuation right after an escaping backslash. -/
def isLiteral (escaped : Bool) (c : Char) : Bool := escaped && Text.isAsciiPunctuation c

/-- Whether a backslash escapes what comes after it. -/
def escapesNext (escaped : Bool) (c : Char) : Bool := c == '\\' && !escaped

/-- The rest of an address in angles, and what follows the closing angle; `escaped` says whether an
escaping backslash came last. -/
def angledAddress? (escaped : Bool) : Text → Option (Text × Text)
  | [] => none
  | c :: t =>
      let more := (angledAddress? (escapesNext escaped c) t).map fun (a, rest) => (c :: a, rest)
      if isLiteral escaped c then more
      else if c = '>' then some ([], t)
      else if c = '<' || c = '\n' then none
      else more

/-- The rest of a bare address and what follows it, inside `depth` open parentheses, of which there
may be one more than `most`; `escaped` says whether an escaping backslash came last. -/
def bareAddress? (most depth : Nat) (escaped : Bool) : Text → Option (Text × Text)
  | [] => if depth = 0 then some ([], []) else none
  | c :: t =>
      let more := fun depth =>
        (bareAddress? most depth (escapesNext escaped c) t).map fun (a, rest) => (c :: a, rest)
      if isLiteral escaped c then more depth
      else if c.toNat ≤ 32 then if depth = 0 then some ([], c :: t) else none
      else if c = '(' then if most < depth then none else more (depth + 1)
      else if c = ')' then if depth = 0 then some ([], c :: t) else more (depth - 1)
      else more depth

/-- The address at the front of a text, escapes put in, and what follows it. -/
def address? (most : Nat) (t : Text) : Option (Text × Text) :=
  let found := match t with
    | '<' :: u => angledAddress? false u
    | _ => bareAddress? most 0 false t
  found.map fun (a, rest) => (unescape a, rest)

/-- What follows the title whose opening mark has been read. -/
def afterTitle? (opening closing : Char) (escaped : Bool) : Text → Option Text
  | [] => none
  | c :: t =>
      if isLiteral escaped c then afterTitle? opening closing false t
      else if c = closing then some t
      else if c = opening then none
      else afterTitle? opening closing (escapesNext escaped c) t

/-- What follows the title at the front of a text. -/
def title? (t : Text) : Option Text :=
  match t with
  | '"' :: u => afterTitle? '"' '"' false u
  | '\'' :: u => afterTitle? '\'' '\'' false u
  | '(' :: u => afterTitle? '(' ')' false u
  | _ => none

/-! ## Definitions -/

/-- A label and its address. -/
structure Definition where
  /-- The label, in the form in which labels are compared. -/
  label : Text
  /-- The address. -/
  address : Text
  deriving DecidableEq, Repr

/-- The definition list's address of a label: the first definition counts. -/
def addressOf? (ds : List Definition) (label : Text) : Option Text :=
  (ds.find? fun d => d.label == label).map Definition.address

/-- A text without the spacing, and at most one line ending, at its front; the first value says
whether a line ending was among it. -/
def skipOneBreak (t : Text) : Bool × Text :=
  match t.dropWhile isSpacing with
  | '\n' :: u => (true, u.dropWhile isSpacing)
  | u => (false, u)

/-- What follows the line, if only spacing is left on it; `some none` at the end of the text. -/
def lineEnd? (t : Text) : Option (Option Text) :=
  match t.dropWhile isSpacing with
  | [] => some none
  | '\n' :: u => some (some u)
  | _ => none

/-- The definition that a text starts with, and the lines that follow it, if there are any. -/
def definition? (t : Text) : Option (Definition × Option Text) := do
  let (label, rest) ← match t with
    | '[' :: u => label? u
    | _ => none
  let rest ← Text.after? [':'] rest
  let start := (skipOneBreak rest).2
  let (address, rest) ← address? 1 start
  if rest.length = start.length then none
  else
    let d : Definition := ⟨label, address⟩
    let (broken, next) := skipOneBreak rest
    let titled := (title? next).bind lineEnd?
    if next.isEmpty then some (d, none)
    else if broken then
      match titled with
      | some after => some (d, after)
      | none => (lineEnd? rest).map fun after => (d, after)
    else if next.length = rest.length then none
    else titled.map fun after => (d, after)

/-! ## Examples -/

example : reference? "amp;x".toList = some (['&'], ['x']) := by decide +kernel

example : reference? "#x41;".toList = some (['A'], []) := by decide +kernel

example : definition? "[ Foo\n bar]: <u v>\n  'a\nb' \nc".toList
    = some (⟨"foo bar".toList, "u v".toList⟩, some ['c']) := by decide +kernel

end Scenarist.Markdown
