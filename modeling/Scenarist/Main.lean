/-
  The program — the command line.

  1. What a run comes to is decided by `Command.plan`, which sees the files through a lookup.  Here
     the paths that the request may ask for are looked up, the plan is made, its output is written,
     and what it says is printed.

  2. Inside a folder files are only named.  A fixture that is run is looked up once more, by its own
     path, so that an error in reading it is its own.
-/
import Scenarist.Command.Run

namespace Scenarist.Program

open Command

/-! ## Looking up -/

/-- How deep folders are followed; no path of the system leads deeper. -/
def maxDepth : Nat := 4096

/-- What is wrong with a file, if the system reports an error. -/
def fileError : IO.Error → FileError
  | .noFileOrDirectory .. => .missing
  | .inappropriateType _ 20 _ => .notDirectory
  | .inappropriateType _ 21 _ => .isDirectory
  | .permissionDenied _ code details => .other s!"{details} (os error {code})".toList
  | e => .other (toString e).toList

/-- The text of some bytes, if they are one. -/
def decode (bytes : ByteArray) : Option Text := (String.fromUTF8? bytes).map String.toList

/-- Whether there is a folder at a path. -/
def isFolder (path : String) : IO Bool := do
  return (← ((← IO.currentDir) / path).metadata).type == .dir

/-- The folder at a path, followed to a depth.  What cannot be read is left empty. -/
def folder : Nat → String → IO Entry
  | 0, _ => return .folder []
  | depth + 1, path => do
      let listed ← try ((← IO.currentDir) / path).readDir catch _ => pure #[]
      let mut entries := []
      for d in listed do
        let inner ← try isFolder d.path.toString catch _ => pure false
        let e ← if inner then folder depth d.path.toString else pure (.file none)
        entries := (d.fileName.toList, e) :: entries
      return .folder entries

/-- What there is at a path. -/
def look (path : Text) : IO (Except FileError Entry) := do
  if path.isEmpty then return .error .missing
  let path := String.ofList path
  try
    if ← isFolder path then return .ok (← folder maxDepth path)
    return .ok (.file (decode (← IO.FS.readBinFile path)))
  catch e => return .error (fileError e)

/-- What has been looked up, as a lookup. -/
def lookupIn (seen : List (Text × Except FileError Entry)) : Lookup := fun path =>
  (seen.lookup path).getD (.error .missing)

/-- The paths that a request asks for first. -/
def pathsOf (r : Request) : List Text :=
  let subject := match r.task with
    | .convert c => if c.file = ['-'] then [] else [c.file]
    | .test t => [t.path]
  r.config.getD Settings.defaultFile :: subject

/-- The paths of the fixtures in the folder that a request names. -/
def fixturePathsOf (find : Lookup) (r : Request) : List Text :=
  match r.task with
  | .convert _ => []
  | .test t =>
      match find t.path with
      | .ok (.folder es) =>
          (Fixture.discover (.folder es)).map fun f => Fixture.joinPath t.path f.names
      | _ => []

/-- Looks up all that a request may ask for. -/
def lookupFor (r : Request) : IO Lookup := do
  let pairs := fun (paths : List Text) => paths.mapM fun path => do return (path, ← look path)
  let seen ← pairs (pathsOf r)
  return lookupIn (seen ++ (← pairs (fixturePathsOf (lookupIn seen) r)))

/-! ## The standard input -/

/-- Whether a request reads the standard input. -/
def readsInput (r : Request) : Bool :=
  match r.task with
  | .convert c => c.file = ['-']
  | .test _ => false

/-- The standard input up to its end. -/
def readInput : IO ByteArray := do
  let input ← IO.getStdin
  let mut bytes := ByteArray.empty
  repeat
    let more ← input.read 65536
    if more.isEmpty then break
    bytes := bytes ++ more
  return bytes

/-! ## Carrying out -/

/-- Carries out a plan: what it comes to after its output has been written. -/
def carryOut (p : Plan) : IO Outcome :=
  match p.output with
  | none => return p.outcome
  | some (path, content) => do
      try
        IO.FS.writeFile (String.ofList path) (String.ofList content)
        return p.outcome
      catch e => return p.failed path (fileError e)

/-- The plan for arguments, with the files and the standard input of the system. -/
def planFor (args : List Text) : IO Plan := do
  match parseArguments args with
  | .error _ => return plan (lookupIn []) none args
  | .ok r =>
      let stdin ← if readsInput r then decode <$> readInput else pure none
      return plan (← lookupFor r) stdin args

end Scenarist.Program

/-- Runs the program. -/
def main (args : List String) : IO UInt32 := do
  let outcome ← Scenarist.Program.carryOut (← Scenarist.Program.planFor (args.map String.toList))
  IO.print (String.ofList outcome.stdout)
  IO.eprint (String.ofList outcome.stderr)
  return outcome.exit.toUInt32
