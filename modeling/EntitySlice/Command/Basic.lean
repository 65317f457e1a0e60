import EntitySlice.Command.Setting
import EntitySlice.FileTree

/-!
# Commands

What the program can be asked to do, and how a command line asks for it: settings for all commands,
the name of a command, and its own settings. The setting for the configuration file may stand before
the name or after it; the one after it counts.
-/

namespace EntitySlice

/-- What the program can be asked to do. -/
inductive Command
  /-- Write the slice that a schema describes. -/
  | generate (schema : Path) (root? : Option Path)
  /-- Say what a schema means. -/
  | validate (schema : Path)
  /-- List the files that a generation would write. -/
  | listArtifacts (schema : Path)
  /-- Listen for requests. -/
  | serve (host? : Option String) (port? : Option Nat) (root? : Option Path)
  deriving DecidableEq, Repr

/-- A use of the program. -/
inductive Invocation
  /-- Say which version this is. -/
  | version
  /-- Carry out a command, perhaps with a configuration file. -/
  | command (config? : Option Path) (c : Command)
  deriving DecidableEq, Repr

/-- The names of commands. -/
inductive CommandName
  | generate | validate | listArtifacts | serve
  deriving DecidableEq, Repr

namespace CommandName

/-- The command that a word names. -/
def ofText? : String → Option CommandName
  | "generate" => some .generate
  | "validate" => some .validate
  | "list-artifacts" => some .listArtifacts
  | "serve" => some .serve
  | _ => none

/-- The settings that may stand behind the name of a command. -/
def settings : CommandName → List Setting
  | .generate => [.config, .schema, .root]
  | .validate | .listArtifacts => [.config, .schema]
  | .serve => [.config, .host, .port, .root]

end CommandName

namespace Settings

/-- The path that a setting gives. -/
def path? (given : Settings) (s : Setting) : Option Path :=
  (given.lookup s).map Path.mk

/-- The schema, which has to be there. -/
def schema (given : Settings) : Except UsageFault Path :=
  match given.path? .schema with
  | some path => .ok path
  | none => .error (.missing .schema)

/-- The command of a name with its settings. -/
def command (given : Settings) : CommandName → Except UsageFault Command
  | .generate => do return .generate (← given.schema) (given.path? .root)
  | .validate => do return .validate (← given.schema)
  | .listArtifacts => do return .listArtifacts (← given.schema)
  | .serve =>
    .ok (.serve (given.lookup .host) ((given.lookup .port).bind Setting.portOfValue?)
      (given.path? .root))

end Settings

/-- Check that nothing but the end of options is left. -/
def checkEnd : List String → Except UsageFault Unit
  | [] | ["--"] => .ok ()
  | "--" :: word :: _ | word :: _ => .error (.unexpected word)

/-- Whether a word asks for the version. -/
def asksForVersion (w : Word) : Bool :=
  match w with
  | .long "version" none | .short 'V' _ => true
  | _ => false

namespace Invocation

/-- The command of a name, from the words behind the name; `config?` was given before it. -/
def ofCommandWords (config? : Option Path) (name : CommandName) (words : List String) :
    Except UsageFault Invocation := do
  let (given, rest) ← readSettings name.settings [] words
  checkEnd rest
  return .command ((given.path? .config).or config?) (← given.command name)

/-- What a command line asks for; the first word, the name of the program, is not part of it. -/
def parse (words : List String) : Except UsageFault Invocation := do
  let (given, rest) ← readSettings [.config] [] words
  match rest with
  | [] => throw .noCommand
  | word :: rest =>
    if asksForVersion (.ofText word) then return .version
    match CommandName.ofText? word with
    | some name => ofCommandWords (given.path? .config) name rest
    | none => throw (.unexpected word)

end Invocation

end EntitySlice
