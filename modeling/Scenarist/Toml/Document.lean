/-
  Documents — from the text of a TOML document to its table.

  1. A document is a sequence of statements: a pair of a key and a value, or a header that names the
     table to which the pairs after it belong.

  2. A table may be opened once by a header.  A table that exists only because a longer header runs
     through it may still be opened.  A table made by a dotted key grows by dotted keys only, and a
     table that a header has opened does not grow by them.

  3. Arrays and inline tables are values: once written they are finished.
-/
import Scenarist.Toml.Scalar

namespace Scenarist.Toml

/-! ## Tables under construction -/

/-- How a table came about. -/
inductive Origin where
  /-- A header names it. -/
  | opened
  /-- A longer header runs through it. -/
  | implied
  /-- A dotted key runs through it. -/
  | dotted
  deriving DecidableEq, Repr

/-- What a key stands for while a document is put together. -/
inductive Node where
  /-- A value. -/
  | value (v : Value)
  /-- A table. -/
  | table (origin : Origin) (entries : List (Text × Node))
  /-- An array of tables: the last one, and those before it, latest first. -/
  | tables (last : List (Text × Node)) (before : List (List (Text × Node)))
  deriving Repr

/-- Keys and what they stand for. -/
abbrev Entries := List (Text × Node)

namespace Entries

/-- What a key stands for. -/
def find? (key : Text) : Entries → Option Node
  | [] => none
  | (k, n) :: es => if k = key then some n else find? key es

/-- Lets a key stand for something; a new key comes last. -/
def set (key : Text) (node : Node) : Entries → Entries
  | [] => [(key, node)]
  | (k, n) :: es => if k = key then (k, node) :: es else (k, n) :: set key node es

/-- Changes the table at a path.  Tables that are missing are made; `dotted` says whether the path
belongs to a dotted key. -/
def alter (dotted : Bool) (change : Origin → Entries → Option Entries) :
    List Text → Origin → Entries → Option Entries
  | [], origin, es => change origin es
  | key :: path, _, es =>
      match es.find? key with
      | none => do
          let origin := if dotted then .dotted else .implied
          return es.set key (.table origin (← alter dotted change path origin []))
      | some (.value _) => none
      | some (.tables last before) => do
          return es.set key (.tables (← alter dotted change path .opened last) before)
      | some (.table origin inner) =>
          if dotted && origin = .opened then none
          else do return es.set key (.table origin (← alter dotted change path origin inner))

/-- Adds a pair to a table, under a dotted path. -/
def addPair (path : List Text) (key : Text) (v : Value) (es : Entries) : Option Entries :=
  let put := fun (origin : Origin) (es : Entries) =>
    if (!path.isEmpty && origin ≠ .dotted) || (es.find? key).isSome then none
    else some (es.set key (.value v))
  alter true put path .opened es

/-- Opens a table. -/
def openTable (key : Text) (es : Entries) : Option Entries :=
  match es.find? key with
  | none => some (es.set key (.table .opened []))
  | some (.table .implied inner) => some (es.set key (.table .opened inner))
  | some _ => none

/-- Opens the next table of an array of tables. -/
def openNext (key : Text) (es : Entries) : Option Entries :=
  match es.find? key with
  | none => some (es.set key (.tables [] []))
  | some (.tables last before) => some (es.set key (.tables [] (last :: before)))
  | some _ => none

end Entries

mutual

/-- The value of a node. -/
def Node.close : Node → Value
  | .value v => v
  | .table _ es => .table (closeEntries es)
  | .tables last before => .array (closeTables before [.table (closeEntries last)])

/-- The table of finished entries. -/
def closeEntries : List (Text × Node) → Table
  | [] => []
  | (k, n) :: es => (k, n.close) :: closeEntries es

/-- Tables, latest first, put before values. -/
def closeTables : List (List (Text × Node)) → List Value → List Value
  | [], vs => vs
  | t :: ts, vs => closeTables ts (.table (closeEntries t) :: vs)

end

/-! ## Values with parts -/

/-- How deep arrays and inline tables may be nested. -/
def maxDepth : Nat := 79

/-- The rest of an array, whose items `item` reads.  At most `fuel` items are read. -/
def arrayItems? (item : Text → Option (Value × Text)) : Nat → Text → Option (List Value × Text)
  | 0, _ => none
  | fuel + 1, t =>
      match skipLines t.length t with
      | ']' :: rest => some ([], rest)
      | t => do
          let (v, rest) ← item t
          match skipLines rest.length rest with
          | ',' :: more =>
              let (vs, rest) ← arrayItems? item fuel more
              return (v :: vs, rest)
          | ']' :: rest => return ([v], rest)
          | _ => none

/-- A key, an equals sign and a value: the path of the key, its last part, and the value. -/
def pair? (item : Text → Option (Value × Text)) (t : Text) :
    Option ((List Text × Text × Value) × Text) := do
  let (key, rest) ← key? maxKeyParts t
  let rest ← Text.after? ['='] rest
  let (v, rest) ← item (skipSpace rest)
  return ((key.dropLast, ← key.getLast?, v), rest)

/-- The rest of an inline table that has at least one more pair.  At most `fuel` pairs are read. -/
def inlinePairs? (item : Text → Option (Value × Text)) :
    Nat → Text → Option (List (List Text × Text × Value) × Text)
  | 0, _ => none
  | fuel + 1, t => do
      let (p, rest) ← pair? item t
      match skipSpace rest with
      | ',' :: more =>
          let (ps, rest) ← inlinePairs? item fuel more
          return (p :: ps, rest)
      | '\x7d' :: rest => return ([p], rest)
      | _ => none

/-- The inline table of some pairs. -/
def inlineTable? (ps : List (List Text × Text × Value)) : Option Value := do
  let es ← ps.foldlM (fun es (path, key, v) => Entries.addPair path key v es) []
  return .table (closeEntries es)

/-- The value at the front of a text, with at most `depth` arrays and inline tables around one
another. -/
def value? : Nat → Text → Option (Value × Text)
  | depth, '[' :: t =>
      match depth with
      | 0 => none
      | depth + 1 =>
          (arrayItems? (value? depth) (t.length + 1) t).map fun (vs, rest) => (.array vs, rest)
  | depth, '\x7b' :: t =>
      match depth with
      | 0 => none
      | depth + 1 =>
          match skipSpace t with
          | '\x7d' :: rest => some (.table [], rest)
          | t => do
              let (ps, rest) ← inlinePairs? (value? depth) (t.length + 1) t
              return (← inlineTable? ps, rest)
  | _, t => scalar? t

/-! ## Statements -/

/-- One statement of a document. -/
inductive Statement where
  /-- A header. -/
  | header (path : List Text) (key : Text)
  /-- The header of the next table of an array. -/
  | next (path : List Text) (key : Text)
  /-- A pair of a key and a value. -/
  | pair (path : List Text) (key : Text) (v : Value)
  deriving Repr

/-- The statement at the front of a text, and what follows its line. -/
def statement? (t : Text) : Option (Statement × Text) :=
  match t with
  | '[' :: '[' :: t => do
      let (key, rest) ← key? maxKeyParts t
      let rest ← afterLine? (← Text.after? "]]".toList rest)
      return (.next key.dropLast (← key.getLast?), rest)
  | '[' :: t => do
      let (key, rest) ← key? maxKeyParts t
      let rest ← afterLine? (← Text.after? [']'] rest)
      return (.header key.dropLast (← key.getLast?), rest)
  | t => do
      let ((path, key, v), rest) ← pair? (value? maxDepth) t
      return (.pair path key v, ← afterLine? rest)

/-- The statements of a text, of which there are at most `fuel`. -/
def statements? : Nat → Text → Option (List Statement)
  | 0, _ => none
  | fuel + 1, t =>
      match skipLines t.length t with
      | [] => some []
      | '#' :: t => if t.all isCommentChar then some [] else none
      | t => do
          let (s, rest) ← statement? t
          let ss ← statements? fuel rest
          return s :: ss

/-- The document after a statement; the path is that of the table that is open. -/
def Statement.run (doc : List Text × Entries) : Statement → Option (List Text × Entries)
  | .header path key => do
      return (path ++ [key],
        ← Entries.alter false (fun _ => Entries.openTable key) path .opened doc.2)
  | .next path key => do
      return (path ++ [key],
        ← Entries.alter false (fun _ => Entries.openNext key) path .opened doc.2)
  | .pair path key v => do
      return (doc.1,
        ← Entries.alter false (fun _ => Entries.addPair path key v) doc.1 .opened doc.2)

/-- The table of a TOML document, if the text is one. -/
def parse? (t : Text) : Option Table := do
  let t := (Text.after? ['\uFEFF'] t).getD t
  let ss ← statements? (t.length + 1) t
  let (_, es) ← ss.foldlM Statement.run ([], [])
  return closeEntries es

end Scenarist.Toml
