/-
  Values — what a TOML document says.

  1. A table is a list of keys with their values; no key stands in it twice.  Numbers with a fraction
     and dates are kept as they are written, because nothing here computes with them.

  2. Values are the same if `same` finds them so, and that can be computed.
-/
import Scenarist.Text.Basic

namespace Scenarist.Toml

/-- A value of a TOML document. -/
inductive Value where
  /-- A string. -/
  | string (t : Text)
  /-- An integer. -/
  | integer (n : Int)
  /-- A floating-point number. -/
  | float (written : Text)
  /-- A truth value. -/
  | boolean (b : Bool)
  /-- A date, a time, or both. -/
  | datetime (written : Text)
  /-- An array. -/
  | array (items : List Value)
  /-- A table. -/
  | table (entries : List (Text × Value))
  deriving Repr

/-- A table: keys and their values. -/
abbrev Table := List (Text × Value)

namespace Value

/-- The text of a string. -/
def text? : Value → Option Text
  | .string t => some t
  | _ => none

/-- The truth value. -/
def bool? : Value → Option Bool
  | .boolean b => some b
  | _ => none

/-- The texts of an array of strings. -/
def texts? : Value → Option (List Text)
  | .array items => items.mapM text?
  | _ => none

/-- An integer that is not negative. -/
def count? : Value → Option Nat
  | .integer n => if n < 0 then none else some n.toNat
  | _ => none

end Value

/-! ## Equality -/

mutual

/-- Whether two values are the same. -/
def Value.same : Value → Value → Bool
  | .string t, .string u => t == u
  | .integer n, .integer m => n == m
  | .float t, .float u => t == u
  | .boolean a, .boolean b => a == b
  | .datetime t, .datetime u => t == u
  | .array vs, .array ws => sameItems vs ws
  | .table es, .table fs => sameEntries es fs
  | _, _ => false

/-- Whether two lists of values are the same. -/
def sameItems : List Value → List Value → Bool
  | [], [] => true
  | v :: vs, w :: ws => v.same w && sameItems vs ws
  | _, _ => false

/-- Whether two lists of keys and values are the same. -/
def sameEntries : List (Text × Value) → List (Text × Value) → Bool
  | [], [] => true
  | (k, v) :: es, (l, w) :: fs => k == l && v.same w && sameEntries es fs
  | _, _ => false

end

mutual

theorem Value.same_iff : ∀ v w : Value, v.same w = true ↔ v = w
  | .string _, w => by cases w <;> simp [Value.same]
  | .integer _, w => by cases w <;> simp [Value.same]
  | .float _, w => by cases w <;> simp [Value.same]
  | .boolean _, w => by cases w <;> simp [Value.same]
  | .datetime _, w => by cases w <;> simp [Value.same]
  | .array vs, w => by
    have hitems := sameItems_iff vs
    cases w <;> simp [Value.same, hitems]
  | .table es, w => by
    have hentries := sameEntries_iff es
    cases w <;> simp [Value.same, hentries]

theorem sameItems_iff : ∀ vs ws : List Value, sameItems vs ws = true ↔ vs = ws
  | [], ws => by cases ws <;> simp [sameItems]
  | v :: vs, ws => by
    have hfirst := v.same_iff
    have hrest := sameItems_iff vs
    cases ws <;> simp [sameItems, hfirst, hrest]

theorem sameEntries_iff : ∀ es fs : List (Text × Value), sameEntries es fs = true ↔ es = fs
  | [], fs => by cases fs <;> simp [sameEntries]
  | (k, v) :: es, fs => by
    have hfirst := v.same_iff
    have hrest := sameEntries_iff es
    cases fs <;> simp [sameEntries, hfirst, hrest, Prod.ext_iff]

end

instance : DecidableEq Value := fun v w => decidable_of_iff _ (v.same_iff w)

/-! ## Tables -/

/-- The value of a key, read as something; the default if the key is missing. -/
def Table.field? {α : Type} (entries : Table) (key : Text) (read : Value → Option α) (default : α) :
    Option α :=
  match entries.lookup key with
  | some v => read v
  | none => some default

/-- Whether all keys are among the given ones. -/
def Table.hasOnly (entries : Table) (keys : List Text) : Bool :=
  entries.all fun (k, _) => keys.contains k

end Scenarist.Toml
