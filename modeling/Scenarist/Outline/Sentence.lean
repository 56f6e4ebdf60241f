/-
  Sentences — what the words of a paragraph mean to an outline.

  1. `clean` takes link markup away: `[label](address)` becomes `label`, wherever it stands, and
     the text between links is kept.  A label ends at the first `]`, an address at the first `)`,
     neither is empty, and the first `[` that starts a whole link wins.  Then line breaks go and
     the ends are trimmed.

  2. `isStep` looks for a step keyword at the very start, in any case.

  3. `headerOf` names the column of the bullets under a step: the words after `following`, up to
     and including the first that ends in `s`.
-/
import Scenarist.Text.Case

namespace Scenarist.Sentence

/-! ## Link markup -/

/-- The label and the address of the link whose opening bracket stands just before the text. -/
def linkParts? (t : Text) : Option (Text × Text) :=
  let label := t.takeWhile (· != ']')
  match t.drop label.length with
  | ']' :: '(' :: rest =>
      let address := rest.takeWhile (· != ')')
      if label.isEmpty || address.isEmpty then none
      else if rest.length == address.length then none
      else some (label, address)
  | _ => none

/-- A text whose links are replaced by their labels. -/
def unlink : Text → Text
  | [] => []
  | c :: t =>
      if c = '[' then
        match linkParts? t with
        | some (label, address) => label ++ unlink (t.drop (label.length + address.length + 3))
        | none => c :: unlink t
      else c :: unlink t
termination_by t => t.length
decreasing_by all_goals (simp only [List.length_drop, List.length_cons]; omega)

/-- A text without line breaks. -/
def dropBreaks (t : Text) : Text := t.filter fun c => c != '\n' && c != '\r'

/-- The clean text of a paragraph: links as their labels, no line breaks, ends trimmed. -/
def clean (t : Text) : Text := Text.trim (dropBreaks (unlink t))

/-! ## Steps -/

/-- Whether a text starts with a word written in lower case, in any case. -/
def startsWithWord (word t : Text) : Bool :=
  (t.take word.length).map Char.toLower == word

/-- The words that open a step. -/
def stepKeywords : List Text := ["given".toList, "when".toList, "then".toList, "and".toList]

/-- Whether a text opens with a step keyword; only its first letters count. -/
def isStep (t : Text) : Bool := stepKeywords.any fun word => startsWithWord word t

/-! ## The header of the bullets under a step -/

/-- What stands after the first `following` that a blank comes after, and after that blank. -/
def afterFollowing? : Text → Option Text
  | [] => none
  | c :: t =>
      if startsWithWord "following".toList (c :: t) && ((t.drop 8).head?.any Text.isBlank) then
        some (t.drop 9)
      else afterFollowing? t

/-- Whether a word ends in `s`, in either case. -/
def isPlural (word : Text) : Bool := word.getLast? == some 's' || word.getLast? == some 'S'

/-- The words of a text, without colons; those that were only colons are left out. -/
def plainWords (t : Text) : List Text :=
  ((Text.words t).map fun word => word.filter (· != ':')).filter fun word => !word.isEmpty

/-- The words up to and including the first plural, if there is one. -/
def throughPlural? : List Text → Option (List Text)
  | [] => none
  | word :: rest =>
      if isPlural word then some [word] else (throughPlural? rest).map (word :: ·)

/-- The header that a step gives to the bullets under it, or `fallback`. -/
def headerOf (step fallback : Text) : Text :=
  match (afterFollowing? step).bind fun rest => throughPlural? (plainWords rest) with
  | some found => Text.capitalize (List.intercalate [' '] found)
  | none => fallback

/-! ## Examples -/

example : clean "  Given [a\nb](u)(v) \r\n".toList = "Given ab(v)".toList := by decide +kernel

example : clean "[ [x](y) [](z)".toList = "[x [](z)".toList := by decide +kernel

example : isStep "Andrew logs in".toList = true ∧ isStep " Given".toList = false := by
  decide +kernel

example : headerOf "Given the FOLLOWING user roles: exist".toList "Elements".toList
    = "User roles".toList := by decide +kernel

example : headerOf "Then I see the following:".toList "Elements".toList = "Elements".toList := by
  decide +kernel

end Scenarist.Sentence
