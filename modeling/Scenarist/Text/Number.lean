/-
  Numbers — the values of digits, and numbers as text.
-/
import Scenarist.Text.Basic

namespace Scenarist.Text

/-- Whether a character is a hexadecimal digit. -/
def isHexDigit (c : Char) : Bool := c.isDigit || ('a' ≤ c.toLower && c.toLower ≤ 'f')

/-- The value of a digit, up to the hexadecimal ones. -/
def digitValue (c : Char) : Nat := if c.isDigit then c.toNat - 48 else c.toLower.toNat - 87

/-- The value of digits in a base. -/
def numeral (base : Nat) (ds : Text) : Nat := ds.foldl (fun n d => base * n + digitValue d) 0

/-- A number in decimal digits. -/
def ofNat (n : Nat) : Text := Nat.toDigits 10 n

example : numeral 16 "fF0".toList = 4080 := by decide +kernel

end Scenarist.Text
