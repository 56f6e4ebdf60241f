/-
  Arguments — what the user asks for on the command line.

  1. A word that names no subcommand stands for a page to convert: `convert` is put before the
     first operand unless that is a subcommand.  Only the value of `--config` is passed over when
     the first operand is looked for.

  2. Each level has its own options, and three belong to all levels.  An option may come once on a
     level, but for categories.  A long one takes its value from the next word or after an equals
     sign.  Short ones may share a word, and the rest of the word is the value of the first one
     that takes a value.  After two dashes all words are operands.

  3. Words are read from left to right.  The first thing that is wrong, or a request for help,
     settles the matter.
-/
import Scenarist.Text.Basic

namespace Scenarist.Command

/-! ## Options -/

/-- An option. -/
inductive Opt where
  | noColor
  | config
  | verbose
  | output
  | check
  | outline
  | noAlign
  | quiet
  | category
  | listCategories
  | help
  | version
  deriving DecidableEq, Repr

namespace Opt

/-- The long name. -/
def long : Opt → Text
  | .noColor => "no-color".toList
  | .config => "config".toList
  | .verbose => "verbose".toList
  | .output => "output".toList
  | .check => "check".toList
  | .outline => "outline".toList
  | .noAlign => "no-align".toList
  | .quiet => "quiet".toList
  | .category => "category".toList
  | .listCategories => "list-categories".toList
  | .help => "help".toList
  | .version => "version".toList

/-- The short name. -/
def short? : Opt → Option Char
  | .verbose => some 'v'
  | .output => some 'o'
  | .quiet => some 'q'
  | .category => some 'c'
  | .help => some 'h'
  | .version => some 'V'
  | _ => none

/-- Whether the option takes a value. -/
def takesValue : Opt → Bool
  | .config | .output | .category => true
  | _ => false

/-- Whether the value may be empty; a path may not. -/
def mayBeEmpty : Opt → Bool
  | .category => true
  | _ => false

/-- Whether the option may come several times. -/
def mayRepeat : Opt → Bool
  | .category => true
  | _ => false

/-- The options of all levels. -/
def common : List Opt := [.noColor, .config, .verbose, .help]

/-- The options before a subcommand. -/
def ofProgram : List Opt := .version :: common

/-- The options of `convert`. -/
def ofConvert : List Opt := [.output, .check, .outline, .noAlign, .quiet] ++ common

/-- The options of `test`. -/
def ofTest : List Opt := [.category, .listCategories] ++ common

end Opt

/-! ## Reading words -/

/-- What has been read on one level. -/
structure Level where
  /-- The options, with their values, last first. -/
  options : List (Opt × Text) := []
  /-- The operands, last first. -/
  operands : List Text := []
  deriving DecidableEq, Repr

namespace Level

/-- Whether an option was given. -/
def has (l : Level) (o : Opt) : Bool := l.options.any fun (p, _) => p = o

/-- The value of an option. -/
def value? (l : Level) (o : Opt) : Option Text := l.options.lookup o

/-- The values of an option that may repeat. -/
def values (l : Level) (o : Opt) : List Text :=
  (l.options.reverse.filter fun (p, _) => p = o).map Prod.snd

end Level

/-- Why words are not read on. -/
inductive Stop where
  /-- Help is asked for. -/
  | help
  /-- The version is asked for. -/
  | version
  /-- Something is wrong. -/
  | wrong
  deriving DecidableEq, Repr

/-- Puts an option to those of a level. -/
def Level.add (o : Opt) (value : Text) (l : Level) : Except Stop Level :=
  if o = .help then .error .help
  else if o = .version then .error .version
  else if l.has o && !o.mayRepeat then .error .wrong
  else if o.takesValue && value.isEmpty && !o.mayBeEmpty then .error .wrong
  else .ok { l with options := (o, value) :: l.options }

/-- Whether a word may be the value of the option before it. -/
def isValueWord (word : Text) : Bool := word = ['-'] || word.head? ≠ some '-'

/-- A word of short options, without its dash: the level after it, and the option that takes the
next word. -/
def shortOptions (allowed : List Opt) (l : Level) : Text → Except Stop (Level × Option Opt)
  | [] => .ok (l, none)
  | c :: rest =>
      match allowed.find? fun o => o.short? = some c with
      | none => .error .wrong
      | some o =>
          if o.takesValue then
            match rest with
            | [] => .ok (l, some o)
            | '=' :: value => do return (← l.add o value, none)
            | value => do return (← l.add o value, none)
          else do shortOptions allowed (← l.add o []) rest

/-- A word with a long option, without its dashes: the level after it, and the option that takes
the next word. -/
def longOption (allowed : List Opt) (l : Level) (word : Text) : Except Stop (Level × Option Opt) :=
  let name := word.takeWhile (· != '=')
  match allowed.find? fun o => o.long = name, word.drop name.length with
  | none, _ => .error .wrong
  | some o, [] => if o.takesValue then .ok (l, some o) else do return (← l.add o [], none)
  | some o, _ :: value =>
      if o.takesValue then do return (← l.add o value, none) else .error .wrong

/-- Reads the words of a level that allows some options and at most so many operands.  Before a
subcommand no operand is allowed: the first one ends the level, and it and what follows are given.
`pending` is the option that takes the next word. -/
def readLevel (allowed : List Opt) (most : Option Nat) (pending : Option Opt) (l : Level) :
    List Text → Except Stop (Level × List Text)
  | [] => if pending.isSome then .error .wrong else .ok (l, [])
  | word :: words =>
      match pending with
      | some o =>
          if isValueWord word then do readLevel allowed most none (← l.add o word) words
          else .error .wrong
      | none =>
          match word with
          | ['-', '-'] =>
              match most with
              | none => .error .wrong
              | some n =>
                  if l.operands.length + words.length ≤ n then
                    .ok ({ l with operands := words.reverse ++ l.operands }, [])
                  else .error .wrong
          | '-' :: '-' :: name => do
              let (l, pending) ← longOption allowed l name
              readLevel allowed most pending l words
          | '-' :: c :: cs => do
              let (l, pending) ← shortOptions allowed l (c :: cs)
              readLevel allowed most pending l words
          | operand =>
              match most with
              | none => .ok (l, operand :: words)
              | some n =>
                  if l.operands.length < n then
                    readLevel allowed most none { l with operands := operand :: l.operands } words
                  else .error .wrong

/-! ## Requests -/

/-- What a conversion is asked for. -/
structure ConvertRequest where
  /-- The page; a dash stands for the standard input. -/
  file : Text
  /-- Where the feature is written, if not to the standard output. -/
  output : Option Text
  /-- Whether it is only checked that the page converts. -/
  check : Bool
  /-- Whether the outline is shown. -/
  outline : Bool
  /-- Whether tables are left as they are. -/
  noAlign : Bool
  /-- Whether omissions are passed over in silence. -/
  quiet : Bool
  deriving DecidableEq, Repr

/-- What a test run is asked for. -/
structure TestRequest where
  /-- A fixture, or a folder with fixtures. -/
  path : Text
  /-- The requested categories. -/
  categories : List Text
  /-- Whether the categories are only listed. -/
  listCategories : Bool
  deriving DecidableEq, Repr

/-- A task. -/
inductive Task where
  /-- Converts a page. -/
  | convert (r : ConvertRequest)
  /-- Runs fixtures. -/
  | test (r : TestRequest)
  deriving DecidableEq, Repr

/-- What the user asks for. -/
structure Request where
  /-- The settings file. -/
  config : Option Text
  /-- The task. -/
  task : Task
  deriving DecidableEq, Repr

/-- The names of the subcommands. -/
def subcommands : List Text := ["convert".toList, "test".toList, "help".toList]

/-- The arguments with `convert` put before the first operand, unless that is a subcommand. -/
def withSubcommand : List Text → List Text
  | [] => []
  | word :: words =>
      if word = "--config".toList then
        match words with
        | [] => [word]
        | value :: words => word :: value :: withSubcommand words
      else if word = ['-'] || word.head? ≠ some '-' then
        if subcommands.contains word then word :: words else "convert".toList :: word :: words
      else word :: withSubcommand words

/-- The request of the level of `convert`. -/
def Level.convert (l : Level) : Except Stop Task :=
  match l.operands with
  | [file] => .ok (.convert {
      file
      output := l.value? .output
      check := l.has .check
      outline := l.has .outline
      noAlign := l.has .noAlign
      quiet := l.has .quiet })
  | _ => .error .wrong

/-- The request of the level of `test`. -/
def Level.test (l : Level) : Except Stop Task :=
  match l.operands with
  | [path] => .ok (.test {
      path
      categories := l.values .category
      listCategories := l.has .listCategories })
  | _ => .error .wrong

/-- Reads arguments that name a subcommand. -/
def readRequest (words : List Text) : Except Stop Request := do
  let (outer, rest) ← readLevel Opt.ofProgram none none {} words
  let finish := fun (allowed : List Opt) (task : Level → Except Stop Task) (words : List Text) => do
    let (inner, _) ← readLevel allowed (some 1) none {} words
    return { config := (inner.value? .config).or (outer.value? .config), task := ← task inner }
  match rest with
  | [] => .error .wrong
  | name :: words =>
      if name = "convert".toList then finish Opt.ofConvert Level.convert words
      else if name = "test".toList then finish Opt.ofTest Level.test words
      else if name = "help".toList then
        if words.length ≤ 1 && words.all subcommands.contains then .error .help else .error .wrong
      else .error .wrong

/-- Reads the arguments of the program. -/
def parseArguments (args : List Text) : Except Stop Request := readRequest (withSubcommand args)

/-! ## Examples -/

example : (parseArguments ["-v".toList, "page.md".toList, "-qoout".toList]).toOption.map
      Request.task
    = some (.convert ⟨"page.md".toList, some "out".toList, false, false, false, true⟩) := by
  decide +kernel

example : (parseArguments ["-o".toList, "out".toList, "page.md".toList]).toOption = none := by
  decide +kernel

end Scenarist.Command
