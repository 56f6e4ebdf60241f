/-
  Trees of files — folders, what is in them, and the paths that lead there.

  1. A folder lists its entries in no particular order.  A file holds a text, or bytes that are
     none.

  2. A path is walked name by name.  Every name but the last must lead to a folder; two dots lead
     back, one dot and an empty name lead nowhere else.  A tree is closed: absolute paths and paths
     above its root lead to nothing, whether something is read there or written.

  3. Writing a file changes that file and nothing else.  The folder it stands in must be there.
-/
import Scenarist.Text.Basic

namespace Scenarist

/-- Why a file cannot be read or written. -/
inductive FileError where
  /-- There is nothing at the path. -/
  | missing
  /-- The path goes on behind a file. -/
  | notDirectory
  /-- There is a folder at the path. -/
  | isDirectory
  /-- The content is no text. -/
  | notText
  /-- Anything else, as the system puts it. -/
  | other (message : Text)
  deriving DecidableEq, Repr

/-- What the user is told about an error. -/
def FileError.message : FileError → Text
  | .missing => "No such file or directory (os error 2)".toList
  | .notDirectory => "Not a directory (os error 20)".toList
  | .isDirectory => "Is a directory (os error 21)".toList
  | .notText => "stream did not contain valid UTF-8".toList
  | .other message => message

/-- A file or a folder. -/
inductive Entry where
  /-- A file; nothing stands for bytes that are no text. -/
  | file (content : Option Text)
  /-- A folder and what is in it. -/
  | folder (entries : List (Text × Entry))
  deriving Repr

/-- Where files are looked up: what there is at a path. -/
abbrev Lookup := Text → Except FileError Entry

/-- The text of the file at a path. -/
def Lookup.read (find : Lookup) (path : Text) : Except FileError Text := do
  match ← find path with
  | .folder _ => .error .isDirectory
  | .file none => .error .notText
  | .file (some t) => .ok t

namespace Entry

/-! ## Looking up -/

/-- What there is when names are followed from an entry. -/
def at? (e : Entry) : List Text → Option Entry
  | [] => some e
  | name :: names =>
      match e with
      | .file _ => none
      | .folder es => (es.lookup name).bind fun e => e.at? names

/-- The names that lead to the end of a walk from the folder that `here` leads to. -/
def walk (root : Entry) (here : List Text) : List Text → Except FileError (List Text)
  | [] => .ok here
  | name :: names =>
      match root.at? here with
      | none => .error .missing
      | some (.file _) => .error .notDirectory
      | some (.folder es) =>
          if name.isEmpty || name = ['.'] then walk root here names
          else if name = ['.', '.'] then
            if here.isEmpty then .error .missing else walk root here.dropLast names
          else if (es.lookup name).isSome then walk root (here ++ [name]) names
          else .error .missing

/-- The names of a path that starts in the tree; an absolute path does not. -/
def names? (path : Text) : Option (List Text) :=
  if path.isEmpty || path.head? = some '/' then none
  else some (Text.splitWhere (· == '/') path)

/-- What there is at a path. -/
def find (root : Entry) : Lookup := fun path =>
  match names? path with
  | none => .error .missing
  | some names => do
      match root.at? (← root.walk [] names) with
      | some e => .ok e
      | none => .error .missing

/-! ## Writing -/

/-- The names that lead to the file that is written at a path. -/
def target (root : Entry) (path : Text) : Except FileError (List Text) :=
  match names? path with
  | none => .error .missing
  | some names => do
      let kept := (names.reverse.dropWhile List.isEmpty).reverse
      let here ← root.walk [] kept.dropLast
      let name := kept.getLast?.getD []
      match root.at? here with
      | none => .error .missing
      | some (.file _) => .error .notDirectory
      | some (.folder es) =>
          if kept.length < names.length || name = ['.'] || name = ['.', '.'] then
            .error .isDirectory
          else
            match es.lookup name with
            | some (.folder _) => .error .isDirectory
            | _ => .ok (here ++ [name])

/-- Entries in which a name stands for something else; a new name comes last. -/
def setEntry (name : Text) (e : Entry) : List (Text × Entry) → List (Text × Entry)
  | [] => [(name, e)]
  | (n, old) :: es => if n = name then (n, e) :: es else (n, old) :: setEntry name e es

/-- The tree with an entry put where names lead; missing folders are made. -/
def put (new : Entry) : List Text → Entry → Entry
  | [], _ => new
  | name :: names, e =>
      match e with
      | .file content => .file content
      | .folder es =>
          .folder (setEntry name (put new names ((es.lookup name).getD (.folder []))) es)

/-- The tree after a text has been written to a path. -/
def write (root : Entry) (path text : Text) : Except FileError Entry := do
  return put (.file (some text)) (← root.target path) root

/-! ## All files -/

mutual

/-- The files under an entry that `here` leads to, with the names that lead to them. -/
def files (here : List Text) : Entry → List (List Text × Option Text)
  | .file content => [(here, content)]
  | .folder es => filesIn here es

/-- The files under the entries of a folder that `here` leads to. -/
def filesIn (here : List Text) : List (Text × Entry) → List (List Text × Option Text)
  | [] => []
  | (name, e) :: es => e.files (here ++ [name]) ++ filesIn here es

end

/-- The files of a tree that are new or different since another one. -/
def changedSince (after before : Entry) : List (List Text × Option Text) :=
  (after.files []).filter fun (names, content) =>
    match before.at? names with
    | some (.file old) => old != content
    | _ => true

end Entry

end Scenarist
