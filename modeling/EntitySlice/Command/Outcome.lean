import EntitySlice.Command.Basic
import EntitySlice.Config.Sources
import EntitySlice.Service

/-!
# What comes of a command

A use of the program writes lines, and may end with a fault, which decides the exit code. To listen
for requests is left to whoever runs the command: such a command ends with the configuration to
listen with.
-/

namespace EntitySlice

open EntitySlice.Number

/-- Why a use of the program fails. -/
inductive CommandFault
  | usage (fault : UsageFault)
  | config (fault : ConfigFault)
  | generation (failure : Failure)

namespace CommandFault

/-- The fault in words. A file that cannot be written has its cause said twice. -/
def message : CommandFault → String
  | .usage fault => fault.message
  | .config fault => fault.message
  | .generation (.write path cause) =>
    s!"{(Failure.write path cause).message}: {cause.message}"
  | .generation failure => failure.message

/-- The exit code of a program that ends with the fault. -/
def exitCode : CommandFault → Nat
  | .usage _ => 2
  | .config _ | .generation _ => 1

end CommandFault

/-- What comes of a use of the program. -/
structure Outcome where
  /-- The lines of the output. -/
  lines : List String
  fault? : Option CommandFault := none
  /-- The configuration to listen with, if that is what comes next. -/
  service? : Option Config := none

namespace Outcome

/-- An outcome with nothing but a fault. -/
def failed (fault : CommandFault) : Outcome := { lines := [], fault? := some fault }

/-- The exit code. -/
def exitCode (o : Outcome) : Nat :=
  match o.fault? with
  | none => 0
  | some fault => fault.exitCode

/-- The output as one text. -/
def output (o : Outcome) : String :=
  String.join (o.lines.map (· ++ "\n"))

/-- The text about the fault, if there is one. -/
def errorText (o : Outcome) : String :=
  match o.fault? with
  | none => ""
  | some fault => s!"Error: {fault.message}\n"

end Outcome

/-! ## Lines of the commands -/

/-- The line that says which version this is. -/
def versionLine : String := s!"{Service.name} {Service.version}"

/-- The line for a warning. -/
def warningLine (w : Warning) : String := s!"  ⚠ {w.message}"

/-- The directory of the slice that a report is about. -/
def Report.directory (r : Report) (projectRoot : Path) : Path :=
  projectRoot / "src/app" / r.root.name / r.folder

/-- The lines about a generation that has completed. -/
def Report.lines (r : Report) (projectRoot : Path) : List String :=
  r.warnings.map warningLine
    ++ [s!"  ✓ Wrote {natText r.files.length} files to {(r.directory projectRoot).text}",
      "✨ Generation complete!"]

/-- The lines about what a schema means. -/
def Entity.lines (e : Entity) (warnings : List Warning) : List String :=
  [s!"  ✓ Entity: {e.naming.plural} / {e.naming.singular}",
    s!"  ✓ Folder: src/app/{e.root.name}/{e.naming.folder}",
    s!"  ✓ Page: {e.pageAddress}",
    s!"  ✓ Fields: {natText e.fields.length}"]
    ++ warnings.map warningLine ++ ["✨ Schema is valid"]

/-- The outcome of work that starts with some lines and says more if it succeeds. -/
def Outcome.ofResult {α : Type} (start : List String) (more : α → List String) :
    Except Failure α → Outcome
  | .ok a => { lines := start ++ more a }
  | .error e => { lines := start, fault? := some (.generation e) }

section Store

variable {m : Type → Type} [Monad m] [FileStore m]

/-- Carry out a command. -/
def Command.run (c : Command) (config : Config) : m Outcome := do
  match c with
  | .generate schema root? =>
    let root := root?.getD config.projectRoot
    let result ← Generator.generateFile ⟨root, config.keys⟩ schema
    return .ofResult [s!"🔧 Generating slice from {schema.text}..."] (·.lines root) result
  | .validate schema =>
    let result := (← readSchema schema).bind (prepare config.keys)
    return .ofResult [s!"🔍 Validating {schema.text}..."] (fun (e, ws) => e.lines ws) result
  | .listArtifacts schema =>
    let result := (← readSchema schema).bind (plan config.keys)
    return .ofResult [] (fun p => p.paths.map (·.text)) result
  | .serve host? port? root? =>
    return { lines := [], service? := some { config with
      host := host?.getD config.host
      port := port?.getD config.port
      projectRoot := root?.getD config.projectRoot } }

/-- Do what an invocation asks for, in an environment. -/
def Invocation.run (i : Invocation) (env : Environment) : m Outcome := do
  match i with
  | .version => return { lines := [versionLine] }
  | .command config? c =>
    match ← Config.load config? env with
    | .ok config => c.run config
    | .error fault => return .failed (.config fault)

/-- Do what the words of a command line ask for, in an environment. -/
def runWords (words : List String) (env : Environment) : m Outcome := do
  match Invocation.parse words with
  | .ok i => i.run env
  | .error fault => return .failed (.usage fault)

end Store

end EntitySlice
