import EntitySlice.Entity.Field
import EntitySlice.Text.Blank

/-!
# Naming

A schema names its entity by a plural, a singular and a flag that says where the files go. `resolve`
reads them from the naming block; every other name in a slice is derived from these three, so two
entities with the same `Naming` use the same names everywhere. The keys of the block are a matter of
configuration.
-/

namespace EntitySlice

open EntitySlice.Text

/-- The keys under which a naming block has its values. -/
structure NamingKeys where
  plural : String := "Users_1_000___"
  pluralLower : String := "users_2_000___"
  singular : String := "User_3_000___"
  singularLower : String := "user_4_000___"
  generateFolder : String := "use_generate_folder"
  deriving DecidableEq, Repr

namespace NamingKeys

/-- The keys as JSON. -/
def json (k : NamingKeys) : Json.Value :=
  .object [("plural_pascal", .string k.plural), ("plural_lower", .string k.pluralLower),
    ("singular_pascal", .string k.singular), ("singular_lower", .string k.singularLower),
    ("use_generate_folder", .string k.generateFolder)]

end NamingKeys

/-- The names of an entity: ASCII identifiers that start with a capital or an underscore. -/
structure Naming where
  /-- What many of them are called. -/
  plural : String
  /-- What one of them is called. -/
  singular : String
  /-- Whether the files go to the folder for generated code. -/
  generateFolder : Bool
  deriving DecidableEq, Repr

/-- An ASCII text in small letters. -/
def smallLetters (s : String) : String :=
  String.ofList (s.toList.map asciiLower)

/-! ## Operations on records -/

/-- What clients can do with the records of an entity. -/
inductive Operation
  | list | getById | add | update | delete | bulkUpdate | bulkDelete | summary
  deriving DecidableEq, Repr

namespace Operation

/-- Every operation, in the order in which they are listed. -/
def all : List Operation :=
  [list, getById, add, update, delete, bulkUpdate, bulkDelete, summary]

theorem mem_all (o : Operation) : o ∈ all := by
  cases o <;> decide

/-- The word that names of the operation begin with. -/
def verb : Operation → String
  | list | getById | summary => "get"
  | add => "add"
  | update => "update"
  | delete => "delete"
  | bulkUpdate => "bulkUpdate"
  | bulkDelete => "bulkDelete"

/-- The word that names of the operation end with. -/
def ending : Operation → String
  | getById => "ById"
  | summary => "Summary"
  | _ => ""

/-- Whether the operation leaves the records as they are. -/
def isQuery : Operation → Bool
  | list | getById | summary => true
  | _ => false

/-- The kind of the operation in the client library. -/
def builder (o : Operation) : String :=
  if o.isQuery then "query" else "mutation"

/-- The key of the operation in a JSON object. -/
def key : Operation → String
  | list => "list"
  | getById => "get_by_id"
  | add => "add"
  | update => "update"
  | delete => "delete"
  | bulkUpdate => "bulk_update"
  | bulkDelete => "bulk_delete"
  | summary => "summary"

end Operation

/-- The name of an operation and of the hook that runs it. -/
structure Endpoint where
  name : String
  hook : String
  deriving DecidableEq, Repr

/-- The endpoint as JSON. -/
def Endpoint.json (e : Endpoint) : Json.Value :=
  .object [("name", .string e.name), ("hook", .string e.hook)]

/-! ## Derived names -/

namespace Naming

/-- The plural in small letters. -/
def pluralLower (n : Naming) : String := smallLetters n.plural

/-- The singular in small letters. -/
def singularLower (n : Naming) : String := smallLetters n.singular

/-- The plural in camel case. -/
def pluralCamel (n : Naming) : String := camelCase n.plural

/-- The singular in camel case. -/
def singularCamel (n : Naming) : String := camelCase n.singular

/-- The folder of the slice. -/
def folder (n : Naming) : String := n.pluralLower

/-- The interface of the records. -/
def interfaceName (n : Naming) : String := "I" ++ n.plural

/-- The function that makes a new record. -/
def defaultConst (n : Naming) : String := "default" ++ n.plural

/-- The hook for the state of the page. -/
def storeHook (n : Naming) : String := "use" ++ n.plural ++ "Store"

/-- The interface of the state of the page. -/
def storeInterface (n : Naming) : String := n.plural ++ "Store"

/-- The function that checks a record. -/
def validateFn (n : Naming) : String := "validate" ++ n.plural

/-- The object with the operations for clients. -/
def apiSlice (n : Naming) : String := n.pluralCamel ++ "Api"

/-- The tag of cached answers. -/
def tagType (n : Naming) : String := "tagType" ++ n.plural

/-- The model of the records in the database. -/
def modelName (n : Naming) : String := n.plural

/-- The schema of the records in the database. -/
def schemaConst (n : Naming) : String := n.singularCamel ++ "Schema"

/-- The name of an operation. -/
def operationName (n : Naming) (o : Operation) : String :=
  o.verb ++ n.plural ++ o.ending

/-- The names of an operation; the hook is the name with `use` before it and its kind after it. -/
def endpoint (n : Naming) (o : Operation) : Endpoint where
  name := n.operationName o
  hook := "use" ++ capitalizeAscii o.verb ++ n.plural ++ o.ending ++ capitalizeAscii o.builder

/-- The name of the hook that runs an operation. -/
def hook (n : Naming) (o : Operation) : String := (n.endpoint o).hook

/-- The names of all operations. -/
def endpoints (n : Naming) : List Endpoint := Operation.all.map n.endpoint

/-- All names as JSON. -/
def json (n : Naming) : Json.Value :=
  .object [("plural_pascal", .string n.plural), ("singular_pascal", .string n.singular),
    ("plural_lower", .string n.pluralLower), ("singular_lower", .string n.singularLower),
    ("plural_camel", .string n.pluralCamel), ("singular_camel", .string n.singularCamel),
    ("folder_name", .string n.folder), ("use_generate_folder", .bool n.generateFolder),
    ("interface_name", .string n.interfaceName), ("default_const", .string n.defaultConst),
    ("store_hook", .string n.storeHook), ("store_interface", .string n.storeInterface),
    ("validate_fn", .string n.validateFn), ("api_slice", .string n.apiSlice),
    ("tag_type", .string n.tagType), ("model_name", .string n.modelName),
    ("schema_const", .string n.schemaConst),
    ("endpoints", .object (Operation.all.map fun o => (o.key, (n.endpoint o).json)))]

end Naming

/-! ## Reading a naming block -/

/-- What is wrong with the value of a naming key. -/
inductive NamingReason
  | notString
  | notIdentifier
  | unsafeFolder (folder : String)
  | notFlag
  deriving DecidableEq, Repr

/-- The reason in words. -/
def NamingReason.message : NamingReason → String
  | .notString => "must be a string"
  | .notIdentifier => "must be a valid identifier"
  | .unsafeFolder folder => s!"'{folder}' is not a safe folder name"
  | .notFlag => "must be a boolean"

/-- Why a naming block cannot be resolved. -/
inductive NamingFault
  /-- A key without a value that must have one. -/
  | missing (key : String)
  | invalid (key value : String) (reason : NamingReason)
  deriving DecidableEq, Repr

/-- The fault in words. -/
def NamingFault.message : NamingFault → String
  | .missing key => s!"missing naming field '{key}'"
  | .invalid key value reason =>
    s!"invalid value '{value}' for naming field '{key}': {reason.message}"

/-- The characters that a folder name may start with. -/
def isFolderStart (c : Char) : Bool :=
  c.isLower || c.isDigit

/-- The characters that a folder name may go on with. -/
def isFolderPart (c : Char) : Bool :=
  isFolderStart c || c = '_' || c = '-'

/-- Whether the text can be the name of a folder anywhere. -/
def isFolderName (s : String) : Bool :=
  match s.toList with
  | [] => false
  | c :: rest => isFolderStart c && rest.all isFolderPart

/-- Whether the text is an identifier without a dollar sign. -/
def isEntityName (s : String) : Bool :=
  Source.isIdentifier s && !s.toList.contains '$'

/-- The text at a key without the blanks around it, unless the value is missing or blank. -/
def optionalText (block : Json.Members) (key : String) : Except NamingFault (Option String) :=
  match block.get? key with
  | none | some .null => .ok none
  | some (.string s) => .ok (if trim s = "" then none else some (trim s))
  | some v => .error (.invalid key v.compact .notString)

/-- The text at a key that must have one. -/
def requiredText (block : Json.Members) (key : String) : Except NamingFault String :=
  match optionalText block key with
  | .ok (some s) => .ok s
  | .ok none => .error (.missing key)
  | .error e => .error e

/-- The name at a key, as it is supplied. -/
def suppliedName (block : Json.Members) (key : String) : Except NamingFault String :=
  match requiredText block key with
  | .ok s => if isEntityName s then .ok s else .error (.invalid key s .notIdentifier)
  | .error e => .error e

/-- Whether the text is `word` in any mix of capital and small letters. -/
def isWord (word s : String) : Bool :=
  s.toList.map asciiLower == word.toList

/-- The flag at a key; without a value it is false. -/
def flagAt (block : Json.Members) (key : String) : Except NamingFault Bool :=
  match block.get? key with
  | none | some .null => .ok false
  | some (.bool b) => .ok b
  | some (.string s) =>
    if isWord "true" s then .ok true
    else if isWord "false" s || s = "" then .ok false
    else .error (.invalid key (Json.Value.string s).compact .notFlag)
  | some v => .error (.invalid key v.compact .notFlag)

/-- The warning that a supplied value was replaced, if it was. -/
def corrected? (key supplied resolved : String) : Option Warning :=
  if supplied = resolved then none else some (.corrected key supplied resolved)

/-- The names that a naming block gives, with a warning for each value that was replaced. -/
def Naming.resolve (keys : NamingKeys) (block : Json.Members) :
    Except NamingFault (Naming × List Warning) := do
  let plural ← suppliedName block keys.plural
  let pluralLower ← requiredText block keys.pluralLower
  let singular ← suppliedName block keys.singular
  let singularLower? ← optionalText block keys.singularLower
  let n : Naming := ⟨capitalizeAscii plural, capitalizeAscii singular, false⟩
  unless isFolderName n.folder do
    throw (.invalid keys.plural n.plural (.unsafeFolder n.folder))
  let flag ← flagAt block keys.generateFolder
  let warnings := [corrected? keys.plural plural n.plural,
    corrected? keys.singular singular n.singular,
    corrected? keys.pluralLower pluralLower n.pluralLower,
    singularLower?.bind fun s => corrected? keys.singularLower s n.singularLower]
  return ({ n with generateFolder := flag }, warnings.reduceOption)

end EntitySlice
