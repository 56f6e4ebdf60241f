/-
  HTML — the tags, comments and declarations of HTML as far as Markdown looks at them.

  1. `afterHtml?` passes over one piece of inline HTML and gives what stands after it.

  2. `HtmlEnd.ofLine?` tells whether a line opens a block of HTML, and what ends the block: a line
     that holds a certain mark, or a blank line.
-/
import Scenarist.Markdown.Source
import Scenarist.Markdown.Tag

namespace Scenarist.Markdown

/-! ## Tags -/

/-- The blanks of a tag; line endings count only where a tag may span lines. -/
def isTagBlank (multiline : Bool) (c : Char) : Bool :=
  isSpacing c || (multiline && (c == '\n' || c == '\r'))

/-- What stands after an attribute value. -/
def afterValue? (multiline : Bool) : Text → Option Text
  | [] => none
  | c :: t =>
      if c = '"' || c = '\'' then
        let inside := t.takeWhile (· != c)
        if !multiline && inside.contains '\n' then none
        else
          match t.drop inside.length with
          | _ :: rest => some rest
          | [] => none
      else if isAsciiBlank c || "=<>\x60".toList.contains c then none
      else some (t.dropWhile fun d => !(isAsciiBlank d || "\"'=<>\x60".toList.contains d))

/-- What stands after an attribute: a name and, after an equals sign, a value. -/
def afterAttribute? (multiline : Bool) : Text → Option Text
  | [] => none
  | c :: t =>
      if c.isAlpha || c = '_' || c = ':' then
        let rest := t.dropWhile fun d => d.isAlphanum || "_.:-".toList.contains d
        match rest.dropWhile (isTagBlank multiline) with
        | '=' :: value => afterValue? multiline (value.dropWhile (isTagBlank multiline))
        | _ => some rest
      else none

/-- What stands after the attributes of a tag, each set off by a blank: a slash or the closing
angle.  At most `fuel` attributes are read. -/
def afterAttributes? (multiline : Bool) : Nat → Text → Option Text
  | 0, _ => none
  | fuel + 1, t =>
      let rest := t.dropWhile (isTagBlank multiline)
      match rest with
      | '>' :: _ => some rest
      | '/' :: _ => some rest
      | _ =>
          if rest.length == t.length then none
          else (afterAttribute? multiline rest).bind (afterAttributes? multiline fuel)

/-- What stands after a tag, whose opening angle has been read. -/
def afterTag? (multiline : Bool) (t : Text) : Option Text :=
  let (closing, t) := match t with
    | '/' :: u => (true, u)
    | _ => (false, t)
  match t with
  | [] => none
  | c :: u =>
      if !c.isAlpha then none
      else
        let rest := u.dropWhile fun d => d.isAlphanum || d == '-'
        let rest := if closing then some rest else afterAttributes? multiline (rest.length + 1) rest
        rest.bind fun rest =>
          let rest := rest.dropWhile isSpacing
          let rest := match closing, rest with
            | false, '/' :: more => more
            | _, _ => rest
          match rest with
          | '>' :: more => some more
          | _ => none

/-! ## Other pieces of inline HTML -/

/-- What stands after a comment, whose `<!--` has been read. -/
def afterComment? (t : Text) : Option Text :=
  match t.dropWhile (· == '-') with
  | '>' :: rest => some rest
  | _ => (Text.cut? "-->".toList t).map Prod.snd

/-- What stands after a literal section, whose `<![CDATA[` has been read: it ends at its first
closing brackets, which an angle must follow. -/
def afterLiteral? (t : Text) : Option Text :=
  let brackets := t.dropWhile (· != ']')
  match brackets.dropWhile (· == ']') with
  | '>' :: rest => if brackets.isEmpty then none else some rest
  | _ => none

/-- What stands after a piece of inline HTML, whose opening angle has been read. -/
def afterHtml? (t : Text) : Option Text :=
  match t with
  | '!' :: u =>
      match Text.after? "--".toList u with
      | some body => afterComment? body
      | none =>
          match Text.after? "[CDATA[".toList u with
          | some body => afterLiteral? body
          | none =>
              if u.head?.any Char.isAlpha then (Text.cut? ['>'] u).map Prod.snd else none
  | '?' :: u => (Text.cut? "?>".toList u).map Prod.snd
  | _ => afterTag? true t

/-! ## Blocks of HTML -/

/-- What ends a block of HTML. -/
inductive HtmlEnd where
  /-- The end of a line that holds the mark. -/
  | mark (text : Text)
  /-- A blank line. -/
  | blankLine
  deriving DecidableEq, Repr

namespace HtmlEnd

/-- What stands after a name at the front of a text, in any case. -/
def afterName? (name t : Text) : Option Text :=
  if (t.take name.length).map Char.toLower == name then some (t.drop name.length) else none

/-- Whether a raw element's name is over: at the end, a blank or the closing angle. -/
def endsRawName (t : Text) : Bool :=
  match t.head? with
  | none => true
  | some c => isAsciiBlank c || c == '>'

/-- The block that ends with a certain mark, for a line whose opening angle has been read. -/
def ofMark? (t : Text) : Option HtmlEnd :=
  match rawTagNames.find? fun name => (afterName? name t).any endsRawName with
  | some name => some (.mark ("</".toList ++ name ++ ">".toList))
  | none =>
      if (Text.after? "!--".toList t).isSome then some (.mark "-->".toList)
      else if t.head? == some '?' then some (.mark "?>".toList)
      else if (Text.after? "![CDATA[".toList t).isSome then some (.mark "]]>".toList)
      else if t.head? == some '!' && (t.drop 1).head?.any Char.isAlpha then some (.mark ['>'])
      else none

/-- Whether a line opens a block with the tag of a block element. -/
def startsWithBlockTag (t : Text) : Bool :=
  let t := match t with
    | '/' :: u => u
    | _ => t
  let name := t.takeWhile Char.isAlphanum
  let rest := t.drop name.length
  blockTagNames.contains (name.map Char.toLower)
    && (rest.isEmpty || rest.head?.any (fun c => " \t\r\n>".toList.contains c)
      || (Text.after? "/>".toList rest).isSome)

/-- The block of HTML that a line opens, if it may interrupt a paragraph. -/
def interrupting? (line : Text) : Option HtmlEnd :=
  match line with
  | '<' :: t =>
      match ofMark? t with
      | some e => some e
      | none => if startsWithBlockTag t then some .blankLine else none
  | _ => none

/-- The block of HTML that a line opens. -/
def ofLine? (line : Text) : Option HtmlEnd :=
  match interrupting? line with
  | some e => some e
  | none =>
      match line with
      | '<' :: t =>
          if (afterTag? false t).any fun rest => rest.all isSpacing then some .blankLine else none
      | _ => none

end HtmlEnd

/-! ## Examples -/

example : afterHtml? "a b='c' d/>e".toList = some ['e'] := by decide +kernel

example : afterHtml? "!-- x -- > --> y".toList = some " y".toList := by decide +kernel

example : HtmlEnd.ofLine? "<custom>".toList = some .blankLine
    ∧ HtmlEnd.ofLine? "<custom> x".toList = none := by decide +kernel

end Scenarist.Markdown
