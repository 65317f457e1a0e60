import EntitySlice.Config.Basic
import EntitySlice.Yaml.Node

/-!
# The configuration file

The configuration file is a YAML mapping. Values that it does not give keep their defaults, and keys
that mean nothing are ignored; a key that means something may be given once. A document with nothing
in it changes nothing.
-/

namespace EntitySlice

open EntitySlice.Yaml

namespace Config

/-- The entries of a mapping; where nothing is written there are none. -/
def entriesOf? (d : Document) (node : Node) : Option (List (Node × Node)) :=
  match d.resolve node with
  | .mapping entries => some entries
  | .scalar .plain _ "" => some []
  | _ => none

/-- The text of a scalar, however it is written. -/
def textOf? (d : Document) (node : Node) : Option String :=
  match d.resolve node with
  | .scalar _ _ text => some text
  | _ => none

/-- The entries of a mapping by the text of their keys; every key has to be a scalar. -/
def namedEntries? (d : Document) (node : Node) : Option (List (String × Node)) := do
  (← entriesOf? d node).mapM fun (key, value) => do return (← textOf? d key, value)

/-- Whether a key comes up twice. -/
def isRepeated (entries : List (String × Node)) (key : String) : Bool :=
  1 < (entries.filter fun e => e.1 = key).length

/-- The text at a key, or the one it replaces; it has to be a scalar if it is there. -/
def textAt? (d : Document) (entries : List (String × Node)) (key default : String) :
    Option String :=
  match entries.lookup key with
  | some node => textOf? d node
  | none => some default

/-- Whether the digits start with a zero that is not the only one. -/
def hasLeadingZero (cs : List Char) : Bool :=
  match cs with
  | '0' :: _ :: _ => cs.all Char.isDigit
  | _ => false

/-- The port that an unquoted scalar stands for, in decimal or with a sign for another base. -/
def portOfScalar? (s : String) : Option Nat :=
  let cs := s.toList
  let cs := if cs.head? = some '+' then cs.tail else cs
  match cs with
  | '0' :: 'x' :: rest => portOfDigits? 16 rest
  | '0' :: 'o' :: rest => portOfDigits? 8 rest
  | '0' :: 'b' :: rest => portOfDigits? 2 rest
  | _ => if hasLeadingZero cs then none else portOfDigits? 10 cs

/-- The tag of whole numbers. -/
def integerTag : String := "tag:yaml.org,2002:int"

/-- Whether a scalar may be a number: it is plain, or a literal block that is said to be one. -/
def mayBeNumber (style : ScalarStyle) (tag? : Option String) : Bool :=
  style = .plain || (style = .literal && tag? = some integerTag)

/-- The port that a node stands for. -/
def portOf? (d : Document) (node : Node) : Option Nat :=
  match d.resolve node with
  | .scalar style tag? text => if mayBeNumber style tag? then portOfScalar? text else none
  | _ => none

/-- The keys for schemas that a node gives. -/
def keysOf? (d : Document) (node : Node) : Option NamingKeys := do
  let entries ← namedEntries? d node
  let known := ["plural_pascal", "plural_lower", "singular_pascal", "singular_lower",
    "use_generate_folder"]
  guard (!known.any (isRepeated entries))
  let defaults : NamingKeys := {}
  return {
    plural := ← textAt? d entries "plural_pascal" defaults.plural
    pluralLower := ← textAt? d entries "plural_lower" defaults.pluralLower
    singular := ← textAt? d entries "singular_pascal" defaults.singular
    singularLower := ← textAt? d entries "singular_lower" defaults.singularLower
    generateFolder := ← textAt? d entries "use_generate_folder" defaults.generateFolder }

/-- The configuration that a document gives. -/
def ofDocument? (d : Document) : Option Config := do
  let entries ← namedEntries? d d.root
  let known := ["project_root", "host", "port", "naming_keys"]
  guard (!known.any (isRepeated entries))
  let defaults : Config := {}
  let root ← textAt? d entries "project_root" defaults.projectRoot.text
  let host ← textAt? d entries "host" defaults.host
  let port ← match entries.lookup "port" with
    | some node => portOf? d node
    | none => some defaults.port
  let keys ← match entries.lookup "naming_keys" with
    | some node => keysOf? d node
    | none => some defaults.keys
  return { projectRoot := ⟨root⟩, host, port, keys }

/-- The configuration that a text gives. -/
def parse? (text : String) : Option Config :=
  match Document.parse? text with
  | some (some d) => ofDocument? d
  | some none => some {}
  | none => none

/-- The configuration that the text of a file gives. -/
def ofText (path : Path) (text : String) : Except ConfigFault Config :=
  match parse? text with
  | some c => .ok c
  | none => .error (.malformed path)

end Config

end EntitySlice
