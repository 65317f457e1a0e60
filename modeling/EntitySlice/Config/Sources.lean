import EntitySlice.Config.File
import EntitySlice.Config.Variables
import EntitySlice.FileStore

/-!
# Where a configuration comes from

A configuration starts from the file that is asked for, else from the file that the current
directory has for it, else from the defaults. Variables go before that, those of the environment
before those of the file of variables.
-/

namespace EntitySlice

/-- The configuration file of a directory. -/
def defaultConfigFile : Path := ⟨"template-generator.yaml"⟩

/-- The file of variables of a directory. -/
def variablesFile : Path := ⟨".env"⟩

variable {m : Type → Type} [Monad m] [FileStore m]

/-- The environment with the variables that the current directory adds. -/
def Environment.withFile (env : Environment) : m Environment := do
  match ← readText variablesFile with
  | .ok text => return env.addFile text
  | .error _ => return env

namespace Config

/-- The configuration in a file. -/
def readFile (path : Path) : m (Except ConfigFault Config) := do
  match ← readText path with
  | .ok text => return ofText path text
  | .error cause => return .error (.unreadable path cause)

/-- The configuration before variables change it. -/
def readBase (file? : Option Path) : m (Except ConfigFault Config) := do
  match file? with
  | some path => readFile path
  | none =>
    if ← FileStore.contains defaultConfigFile then readFile defaultConfigFile
    else return .ok {}

/-- The configuration for a run, perhaps from a file that is asked for. -/
def load (file? : Option Path) (env : Environment) : m (Except ConfigFault Config) := do
  let env ← env.withFile
  return (← readBase file?).bind fun c => c.withEnvironment env

end Config

end EntitySlice
