/-
  Scalars — the parts of a TOML line that hold no others: blanks, keys, strings, numbers and dates.

  Each reader takes what it reads off the front of the text and gives the rest, or nothing if the
  text does not start that way.
-/
import Scenarist.Text.Number
import Scenarist.Toml.Value

namespace Scenarist.Toml

/-! ## Blanks and comments -/

/-- Whether a character is a blank inside a line. -/
def isSpace (c : Char) : Bool := c == ' ' || c == '\t'

/-- The text without the blanks of the line at its front. -/
def skipSpace (t : Text) : Text := t.dropWhile isSpace

/-- Whether a character may stand in a comment. -/
def isCommentChar (c : Char) : Bool := c == '\t' || (32 ≤ c.toNat && c.toNat != 127)

/-- What follows a line ending. -/
def afterNewline? : Text → Option Text
  | '\n' :: t => some t
  | '\r' :: '\n' :: t => some t
  | _ => none

/-- The text without the comment at its front. -/
def skipComment : Text → Text
  | '#' :: t => t.dropWhile isCommentChar
  | t => t

/-- What follows the line, if only blanks and a comment are left on it. -/
def afterLine? (t : Text) : Option Text :=
  match skipComment (skipSpace t) with
  | [] => some []
  | t => afterNewline? t

/-- The text without the blanks, comments and line endings at its front.  At most `fuel` lines are
passed over. -/
def skipLines : Nat → Text → Text
  | 0, t => t
  | fuel + 1, t =>
      let t := skipSpace t
      match afterNewline? (skipComment t) with
      | some rest => skipLines fuel rest
      | none => t

/-! ## Strings -/

/-- The character of an escape, whose backslash has been read. -/
def escape? : Text → Option (Char × Text)
  | 'b' :: t => some ('\x08', t)
  | 't' :: t => some ('\t', t)
  | 'n' :: t => some ('\n', t)
  | 'f' :: t => some ('\x0C', t)
  | 'r' :: t => some ('\r', t)
  | '"' :: t => some ('"', t)
  | '\\' :: t => some ('\\', t)
  | 'u' :: t => point 4 t
  | 'U' :: t => point 8 t
  | _ => none
where
  /-- The character of a code point with so many digits. -/
  point (n : Nat) (t : Text) : Option (Char × Text) :=
    let ds := t.take n
    let v := Text.numeral 16 ds
    if ds.length = n && ds.all Text.isHexDigit && v.isValidChar then
      some (Char.ofNat v, t.drop n)
    else none

/-- Whether a character may stand in a string as it is. -/
def isStringChar (c : Char) : Bool := isCommentChar c

/-- The rest of a string in double quotes.  At most `fuel` characters are read. -/
def basicString? : Nat → Text → Option (Text × Text)
  | 0, _ => none
  | _, [] => none
  | fuel + 1, c :: t =>
      if c = '"' then some ([], t)
      else do
        let (c, t) ← if c = '\\' then escape? t else if isStringChar c then some (c, t) else none
        let (s, rest) ← basicString? fuel t
        return (c :: s, rest)

/-- The rest of a string in single quotes. -/
def literalString? : Text → Option (Text × Text)
  | [] => none
  | c :: t =>
      if c = '\'' then some ([], t)
      else if isStringChar c then (literalString? t).map fun (s, rest) => (c :: s, rest)
      else none

/-- What follows an escaped line ending: the blanks and line endings after the backslash, of which
at least one is a line ending. -/
def afterFold? (t : Text) : Option Text :=
  (afterNewline? (skipSpace t)).map fun rest => skipBlankLines rest.length rest
where
  /-- The text without the blanks and line endings at its front. -/
  skipBlankLines : Nat → Text → Text
    | 0, t => t
    | fuel + 1, t =>
        match afterNewline? (skipSpace t) with
        | some rest => skipBlankLines fuel rest
        | none => skipSpace t

/-- The rest of a string in three quotes: three of them end it, and up to two before these belong to
it.  `escapes` says whether a backslash is an escape.  At most `fuel` characters are read. -/
def longString? (quote : Char) (escapes : Bool) : Nat → Text → Option (Text × Text)
  | 0, _ => none
  | _, [] => none
  | fuel + 1, c :: t =>
      if c = quote then
        let run := (c :: t).takeWhile (· == quote)
        if 3 ≤ run.length then
          let kept := min (run.length - 3) 2
          some (run.take kept, (c :: t).drop (kept + 3))
        else (longString? quote escapes fuel t).map fun (s, rest) => (c :: s, rest)
      else
        match afterNewline? (c :: t) with
        | some rest => (longString? quote escapes fuel rest).map fun (s, rest) => ('\n' :: s, rest)
        | none =>
            if escapes && c = '\\' then
              match afterFold? t with
              | some rest => longString? quote escapes fuel rest
              | none => do
                  let (c, t) ← escape? t
                  let (s, rest) ← longString? quote escapes fuel t
                  return (c :: s, rest)
            else if isStringChar c then
              (longString? quote escapes fuel t).map fun (s, rest) => (c :: s, rest)
            else none

/-- The string at the front of a text. -/
def string? (t : Text) : Option (Text × Text) :=
  match t with
  | '"' :: '"' :: '"' :: u => longString? '"' true (u.length + 1) ((afterNewline? u).getD u)
  | '\'' :: '\'' :: '\'' :: u => longString? '\'' false (u.length + 1) ((afterNewline? u).getD u)
  | '"' :: u => basicString? (u.length + 1) u
  | '\'' :: u => literalString? u
  | _ => none

/-! ## Keys -/

/-- Whether a character may stand in a key without quotes. -/
def isBareKeyChar (c : Char) : Bool := c.isAlphanum || c == '-' || c == '_'

/-- One part of a key. -/
def simpleKey? (t : Text) : Option (Text × Text) :=
  match t with
  | '"' :: u => basicString? (u.length + 1) u
  | '\'' :: u => literalString? u
  | _ =>
      let name := t.takeWhile isBareKeyChar
      if name.isEmpty then none else some (name, t.drop name.length)

/-- A key and the blanks around it: its parts, with dots between.  A key of `fuel` or more parts is
too long. -/
def key? : Nat → Text → Option (List Text × Text)
  | 0, _ => none
  | fuel + 1, t => do
      let (name, rest) ← simpleKey? (skipSpace t)
      match skipSpace rest with
      | '.' :: more =>
          let (names, rest) ← key? fuel more
          return (name :: names, rest)
      | rest => return ([name], rest)

/-- The most parts that a key may have. -/
def maxKeyParts : Nat := 79

/-! ## Numbers -/

/-- The digits at the front of a text, with single underscores among them left out. -/
def digitRun (isDigit : Char → Bool) : Text → Text × Text
  | [] => ([], [])
  | c :: t =>
      if isDigit c then
        let (ds, rest) := digitRun isDigit t
        (c :: ds, rest)
      else if c = '_' && t.head?.any isDigit then digitRun isDigit t
      else ([], c :: t)

/-- The digits at the front of a text, of which there must be one. -/
def digits? (isDigit : Char → Bool) (t : Text) : Option (Text × Text) :=
  if t.head?.any isDigit then some (digitRun isDigit t) else none

/-- The sign at the front of a text: whether it is a minus, and what follows. -/
def sign (t : Text) : Bool × Text :=
  match t with
  | '-' :: u => (true, u)
  | '+' :: u => (false, u)
  | _ => (false, t)

/-- A decimal number without a needless zero in front: whether it is negative, and its digits. -/
def decimal? (t : Text) : Option ((Bool × Text) × Text) :=
  let (negative, t) := sign t
  match t with
  | '0' :: rest => some ((negative, ['0']), rest)
  | _ => (digits? Char.isDigit t).map fun (ds, rest) => ((negative, ds), rest)

/-- The size of the least integer of 64 bits; the size of the greatest is one less. -/
def maxSize : Nat := 0x8000000000000000

/-- The integer of a sign and a size, if it has 64 bits. -/
def integer64? (negative : Bool) (n : Nat) : Option Value :=
  if negative then if n ≤ maxSize then some (.integer (-(n : Int))) else none
  else if n < maxSize then some (.integer n) else none

/-- The integer at the front of a text. -/
def integer? (t : Text) : Option (Value × Text) := do
  let inBase := fun (base : Nat) (isDigit : Char → Bool) (t : Text) => do
    let (ds, rest) ← digits? isDigit t
    return (← integer64? false (Text.numeral base ds), rest)
  match t with
  | '0' :: 'x' :: u => inBase 16 Text.isHexDigit u
  | '0' :: 'o' :: u => inBase 8 (fun c => '0' ≤ c && c ≤ '7') u
  | '0' :: 'b' :: u => inBase 2 (fun c => c == '0' || c == '1') u
  | _ =>
      let ((negative, ds), rest) ← decimal? t
      return (← integer64? negative (Text.numeral 10 ds), rest)

/-- What follows an exponent. -/
def afterExponent? : Text → Option Text
  | c :: t =>
      if c = 'e' || c = 'E' then (digits? Char.isDigit (sign t).2).map Prod.snd else none
  | [] => none

/-- What follows a floating-point number. -/
def afterFloat? (t : Text) : Option Text :=
  let u := (sign t).2
  match Text.after? "inf".toList u, Text.after? "nan".toList u with
  | some rest, _ => some rest
  | none, some rest => some rest
  | none, none => do
      let (_, rest) ← decimal? t
      match rest with
      | '.' :: more =>
          let (_, rest) ← digits? Char.isDigit more
          return (afterExponent? rest).getD rest
      | _ => afterExponent? rest

/-! ## Dates -/

/-- A number of exactly so many digits, not above a bound. -/
def fixed? (n most : Nat) (t : Text) : Option (Nat × Text) :=
  let ds := t.take n
  let v := Text.numeral 10 ds
  if ds.length = n && ds.all Char.isDigit && v ≤ most then some (v, t.drop n) else none

/-- How many days a month has. -/
def daysIn (year month : Nat) : Nat :=
  if month = 2 then
    if year % 4 = 0 && (year % 100 ≠ 0 || year % 400 = 0) then 29 else 28
  else if month = 4 || month = 6 || month = 9 || month = 11 then 30
  else 31

/-- What follows a date. -/
def afterDate? (t : Text) : Option Text := do
  let (year, t) ← fixed? 4 9999 t
  let (month, t) ← fixed? 2 12 (← Text.after? ['-'] t)
  let (day, t) ← fixed? 2 (daysIn year month) (← Text.after? ['-'] t)
  if month = 0 || day = 0 then none else some t

/-- What follows a time. -/
def afterTime? (t : Text) : Option Text := do
  let (_, t) ← fixed? 2 23 t
  let (_, t) ← fixed? 2 59 (← Text.after? [':'] t)
  let (_, t) ← fixed? 2 60 (← Text.after? [':'] t)
  match t with
  | '.' :: u =>
      let rest := u.dropWhile Char.isDigit
      if rest.length = u.length then none else some rest
  | _ => some t

/-- What follows an offset from universal time. -/
def afterOffset? : Text → Option Text
  | c :: t =>
      if c = 'Z' || c = 'z' then some t
      else if c = '+' || c = '-' then do
        let (_, t) ← fixed? 2 23 t
        let (_, t) ← fixed? 2 59 (← Text.after? [':'] t)
        return t
      else none
  | [] => none

/-- What follows a date, a time, or both. -/
def afterDatetime? (t : Text) : Option Text :=
  match afterDate? t with
  | none => afterTime? t
  | some rest =>
      match rest with
      | c :: u =>
          if c = 'T' || c = 't' || c = ' ' then
            match afterTime? u with
            | some rest => some ((afterOffset? rest).getD rest)
            | none => some rest
          else some rest
      | [] => some rest

/-! ## Values without parts -/

/-- The value without parts at the front of a text. -/
def scalar? (t : Text) : Option (Value × Text) :=
  let written := fun (rest : Text) => t.take (t.length - rest.length)
  match string? t with
  | some (s, rest) => some (.string s, rest)
  | none =>
      match Text.after? "true".toList t, Text.after? "false".toList t with
      | some rest, _ => some (.boolean true, rest)
      | none, some rest => some (.boolean false, rest)
      | none, none =>
          match afterDatetime? t, afterFloat? t with
          | some rest, _ => some (.datetime (written rest), rest)
          | none, some rest => some (.float (written rest), rest)
          | none, none => integer? t

/-! ## Examples -/

example : string? "\"\"\"\na \\\n   b\"\"\"\"x".toList = some ("a b\"".toList, ['x']) := by
  decide +kernel

example : (scalar? "0x1_F,".toList).map (fun (v, rest) => (v.count?, rest))
    = some (some 31, [',']) := by decide +kernel

end Scenarist.Toml
