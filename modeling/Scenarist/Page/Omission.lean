/-
  Omissions — what a page holds that has no counterpart among the blocks.

  An omission is not an error: the rest of the page is read, and the user is told what was left out.
-/
import Scenarist.Page.Diagnostic

namespace Scenarist

/-- What can be left out. -/
inductive Construct where
  /-- Code, indented or fenced. -/
  | code
  /-- A numbered list. -/
  | numberedList
  /-- A block of HTML. -/
  | html
  /-- The definition of a footnote. -/
  | footnote
  /-- Anything else at a place where it is not read. -/
  | other
  deriving DecidableEq, Repr

/-- The name of a construct. -/
def Construct.name : Construct → Text
  | .code => "code block".toList
  | .numberedList => "numbered list".toList
  | .html => "HTML block".toList
  | .footnote => "footnote definition".toList
  | .other => "unsupported block".toList

/-- Something that was left out. -/
structure Omission where
  /-- What it is. -/
  construct : Construct
  /-- Where it stands. -/
  span : Markdown.Span
  /-- The number of its file. -/
  file : Nat
  deriving DecidableEq, Repr

namespace Omission

/-- What the user is told, in short. -/
def message (o : Omission) : Text := o.construct.name ++ " skipped".toList

/-- What the user is told. -/
def diagnostic (o : Omission) : Diagnostic where
  severity := .warning
  message := o.message
  file := o.file
  span := o.span
  label := "this ".toList ++ o.construct.name ++ " is left out of the feature".toList
  notes :=
    "only headings, paragraphs, quotes, bullet lists and tables are read".toList
      :: if o.construct = .numberedList then
        ["use a bulleted list to get a one-column table".toList]
      else []

end Omission

end Scenarist
