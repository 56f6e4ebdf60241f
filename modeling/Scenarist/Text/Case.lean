/-
  Case — lower case, upper case of a first letter, and the key under which two texts are equal but
  for case.

  1. Lower case is that of Unicode's full mapping: `İ` becomes `i` and a dot above, and a capital
     sigma becomes `ς` at the end of a word and `σ` elsewhere.
  2. Upper case is only ever taken of the first letter of a text, which may become several letters
     (`ß` becomes `SS`).
  3. `caseless` is the full case folding.
-/
import Scenarist.Text.Basic
import Scenarist.Text.CaseTable

namespace Scenarist.Text

/-! ## Looking a character up -/

/-- Whether a code point belongs to a run. -/
def CaseRun.covers (r : CaseRun) (n : Nat) : Bool :=
  r.first ≤ n && n ≤ r.last && (n - r.first) % r.step == 0

/-- The image of a code point under the first run that covers it. -/
def shiftBy? (runs : List CaseRun) (n : Nat) : Option Nat :=
  (runs.find? (·.covers n)).map fun r => ((n : Int) + r.shift).toNat

/-- Whether a code point lies in one of the ranges. -/
def inRanges (ranges : List (Nat × Nat)) (n : Nat) : Bool :=
  ranges.any fun (first, last) => first ≤ n && n ≤ last

/-! ## Lower case -/

/-- Whether what follows, or what stands before when read backwards, has a letter with case next
to the place once signs that do not count are passed over. -/
def meetsCased (t : Text) : Bool :=
  match t.dropWhile fun c => inRanges caseIgnorableRanges c.toNat with
  | [] => false
  | c :: _ => inRanges casedRanges c.toNat

/-- Lower case of a character on its own. -/
def lowerChar (c : Char) : Text :=
  if c.toNat < 128 then [c.toLower]
  else if c = 'İ' then ['i', '\u0307']
  else
    match shiftBy? lowerRuns c.toNat with
    | some n => [Char.ofNat n]
    | none => [c]

/-- Lower case of a text whose earlier characters, last first, are `before`. -/
def lowerAfter (before : Text) : Text → Text
  | [] => []
  | c :: t =>
      let here :=
        if c = 'Σ' then if meetsCased before && !meetsCased t then ['ς'] else ['σ']
        else lowerChar c
      here ++ lowerAfter (c :: before) t

/-- The lower case of a text. -/
def lower (t : Text) : Text := lowerAfter [] t

/-! ## Upper case of a first letter -/

/-- Upper case of a character. -/
def upperChar (c : Char) : Text :=
  if c.toNat < 128 then [c.toUpper]
  else
    match upperExpansions.lookup c.toNat with
    | some ns => ns.map Char.ofNat
    | none =>
      match shiftBy? upperRuns c.toNat with
      | some n => [Char.ofNat n]
      | none => [c]

/-- A text whose first character is in upper case. -/
def capitalize : Text → Text
  | [] => []
  | c :: t => upperChar c ++ t

/-! ## Equality but for case -/

/-- The case folding of a character. -/
def foldChar (c : Char) : Text :=
  if c.toNat < 128 then [c.toLower]
  else
    match foldExpansions.lookup c.toNat with
    | some ns => ns.map Char.ofNat
    | none =>
      match shiftBy? foldRuns c.toNat with
      | some n => [Char.ofNat n]
      | none => lowerChar c

/-- The case folding of a text: equal for texts that differ in case only. -/
def caseless (t : Text) : Text := t.flatMap foldChar

/-! ## Examples -/

example : lower "Fonctionnalité ÀÉ".toList = "fonctionnalité àé".toList := by decide +kernel

example : lower "ΟΔΟΣ ΣΑ".toList = "οδος σα".toList := by decide +kernel

example : capitalize "ßx".toList = "SSx".toList := by decide +kernel

example : caseless "ẞ".toList = caseless "SS".toList := by decide +kernel

end Scenarist.Text
