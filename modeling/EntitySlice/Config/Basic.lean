import EntitySlice.Entity.Naming
import EntitySlice.FileTree

/-!
# Configuration

Where the project is, where the service listens and which keys schemas use. Each of these has a
default, which the configuration file changes; variables of the environment go before the file.
-/

namespace EntitySlice

open EntitySlice.Number

/-- The configuration of the program. -/
structure Config where
  projectRoot : Path := ⟨"."⟩
  host : String := "0.0.0.0"
  port : Nat := 3000
  keys : NamingKeys := {}
  deriving DecidableEq, Repr

/-- Why there is no configuration. -/
inductive ConfigFault
  /-- The variable for the port does not hold one. -/
  | badPort (text : String)
  | unreadable (path : Path) (cause : FileError)
  | malformed (path : Path)

/-- The fault in words. -/
def ConfigFault.message : ConfigFault → String
  | .badPort text => s!"configuration error: PORT must be a port number, got '{text}'"
  | .unreadable path cause =>
    s!"configuration error: Failed to read {path.text}: {cause.message}"
  | .malformed path => s!"configuration error: Failed to parse {path.text}"

/-- The greatest port. -/
def maxPort : Nat := 65535

/-- The number that digits in a base stand for, if it is a port. -/
def portOfDigits? (base : Nat) (cs : List Char) : Option Nat :=
  (readDigits? base cs).filter (· ≤ maxPort)

/-- The port that a text stands for: digits, perhaps with a plus sign before them. -/
def readPort? (s : String) : Option Nat :=
  match s.toList with
  | '+' :: rest => portOfDigits? 10 rest
  | cs => portOfDigits? 10 cs

/-- Variables with their values. -/
abbrev Environment := List (String × String)

namespace Config

/-- The address that the service listens at. -/
def listenAddress (c : Config) : String := c.host ++ ":" ++ natText c.port

/-- The configuration changed by the variables of an environment. -/
def withEnvironment (c : Config) (env : Environment) : Except ConfigFault Config :=
  let c := match env.lookup "TEMPLATE_GENERATOR_ROOT" with
    | some root => { c with projectRoot := ⟨root⟩ }
    | none => c
  let c := match env.lookup "HOST" with
    | some host => { c with host }
    | none => c
  match env.lookup "PORT" with
  | none => .ok c
  | some text =>
    match readPort? text with
    | some port => .ok { c with port }
    | none => .error (.badPort text)

end Config

end EntitySlice
