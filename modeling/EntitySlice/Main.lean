import EntitySlice.Command.Outcome

/-!
# The program

The files of the machine, and the program that works on them. Listening for requests is not part of
this program: it says so and fails.
-/

namespace EntitySlice

/-- What a numbered failure of the machine means, if it is one that files have names for. -/
def FileError.ofCode? (code : Nat) : Option FileError :=
  match code with
  | 20 => some .notDirectory
  | 21 => some .isDirectory
  | 36 => some .nameTooLong
  | _ => none

/-- The number of a failure; the machine may count failures downwards from zero. -/
def failureNumber (code : UInt32) : Nat :=
  min code.toNat (0 - code).toNat

/-- What a failure of the machine means. -/
def FileError.ofMachine (e : IO.Error) : FileError :=
  match e with
  | .noFileOrDirectory .. => .notFound
  | .alreadyExists .. => .alreadyExists
  | .inappropriateType _ code _ | .invalidArgument _ code _ =>
    (FileError.ofCode? (failureNumber code)).getD (.other (toString e))
  | _ => .other (toString e)

/-- The result of an action on the machine, with its failures as values. -/
def onMachine {α : Type} (action : IO α) : IO (Except FileError α) := do
  try return .ok (← action)
  catch e => return .error (FileError.ofMachine e)

/-- Make a directory of the machine, and the directories it is in. -/
def makeDirectoryOnMachine (directory : String) : IO Unit := do
  match ← (IO.FS.createDir directory).toBaseIO with
  | .ok () => return
  | .error (.noFileOrDirectory ..) | .error (.alreadyExists ..) => IO.FS.createDirAll directory
  | .error e => throw e

/-- Write a file of the machine, and make the directories it is in. -/
def writeOnMachine (p : Path) (content : ByteArray) : IO Unit := do
  if let some parent := p.parent? then
    unless parent.text = "" do makeDirectoryOnMachine parent.text
  IO.FS.writeBinFile p.text content

instance : FileStore IO where
  read p := onMachine (IO.FS.readBinFile p.text)
  write p content := onMachine (writeOnMachine p content)
  contains p := do
    match ← onMachine (IO.FS.readBinFile p.text) with
    | .ok _ | .error .isDirectory => return true
    | .error _ => return false

/-- The variables of the machine that the program and the file of variables look at. -/
def machineEnvironment : IO Environment := do
  let more := match ← readText variablesFile with
    | .ok text => variableNames text
    | .error _ => []
  let names := ["TEMPLATE_GENERATOR_ROOT", "HOST", "PORT"] ++ more
  let values ← names.mapM fun name => return (← IO.getEnv name).map (name, ·)
  return values.filterMap id

/-- The ways to use the program. -/
def usageLines : List String :=
  ["Usage: template-generator [-c FILE] COMMAND",
    "  generate -s SCHEMA [-r DIRECTORY]    write the slice that a schema describes",
    "  validate -s SCHEMA                   say what a schema means",
    "  list-artifacts -s SCHEMA             list the files of the slice",
    "  serve [--host HOST] [-p PORT] [-r DIRECTORY]",
    "  --version"]

/-- Run the program on the words of its command line. -/
def runProgram (words : List String) : IO UInt32 := do
  let outcome ← runWords words (← machineEnvironment)
  IO.print outcome.output
  IO.eprint outcome.errorText
  if let some (.usage _) := outcome.fault? then
    usageLines.forM IO.eprintln
  if outcome.service?.isSome then
    IO.eprintln "Error: HTTP service stopped: there is no listener in this program"
    return 1
  return outcome.exitCode.toUInt32

end EntitySlice

/-- The program. -/
def main (words : List String) : IO UInt32 :=
  EntitySlice.runProgram words
