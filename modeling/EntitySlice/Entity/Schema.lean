import EntitySlice.Entity.Field
import EntitySlice.FileTree
import EntitySlice.Json.Reader
import EntitySlice.Text.Blank
import EntitySlice.Text.Quoted

/-!
# Schemas

A schema is a JSON object with a naming block and a list of fields. `Schema.ofValue` says which
documents are schemas and what is wrong with the others. A field is an object, of which only the
name has to be right, or an array of its four attributes, which have to be right all of them.
-/

namespace EntitySlice

open EntitySlice.Number
open EntitySlice.Text

/-- A schema whose names are not resolved yet. -/
structure Schema where
  fields : List FieldSpec
  naming : Json.Members
  /-- The document that the schema was read from. -/
  document : Json.Value

/-! ## Faults -/

/-- What a value should have been. -/
inductive Expectation
  | string | sequence | boolean | field
  deriving DecidableEq, Repr

/-- The expectation in words. -/
def Expectation.message : Expectation → String
  | string => "a string"
  | sequence => "a sequence"
  | boolean => "a boolean"
  | field => "struct FieldSpec"

/-- Why an item of the field list is no field. -/
inductive FieldFault
  | missingName
  | wrongType (found : Json.Value) (expected : Expectation)
  | tooShort (length : Nat)
  | tooLong (length : Nat)

/-- A value as messages speak of it. -/
def described : Json.Value → String
  | .null => "null"
  | .bool b => if b then "boolean `true`" else "boolean `false`"
  | .number (.integer n) => "integer `" ++ intText n ++ "`"
  | .number (.float x) => "floating point `" ++ String.ofList (Json.floatChars x) ++ "`"
  | .string s => "string " ++ quoted s
  | .array _ => "sequence"
  | .object _ => "map"

/-- The fault in words. -/
def FieldFault.message : FieldFault → String
  | missingName => "missing field `name`"
  | wrongType found expected => s!"invalid type: {described found}, expected {expected.message}"
  | tooShort length =>
    s!"invalid length {natText length}, expected struct FieldSpec with 4 elements"
  | tooLong length => s!"invalid length {natText length}, expected fewer elements in array"

/-- Why a text is no schema. -/
inductive SchemaFault
  | notJson
  | notObject
  | missingNaming
  | namingNotObject
  | fieldsNotArray
  | badField (index : Nat) (fault : FieldFault)
  | blankName (index : Nat)
  | reservedName (name : String)
  | repeatedName (name : String)
  /-- The body of a request is not JSON. -/
  | bodyNotJson
  | missingData
  | dataNotString
  /-- The body of a request could not be read as a text. -/
  | bodyNotText
  | unreadable (path : Path) (cause : FileError)

/-- The key of the naming block. -/
def namingKey : String := "namingConvention"

/-- The key of the field list. -/
def fieldsKey : String := "fields"

/-- The fault in words. -/
def SchemaFault.detail : SchemaFault → String
  | notJson => "invalid JSON"
  | notObject => "schema must be a JSON object"
  | missingNaming => s!"missing '{namingKey}' block"
  | namingNotObject => s!"'{namingKey}' must be an object"
  | fieldsNotArray => s!"'{fieldsKey}' must be an array"
  | badField index fault => s!"field #{natText index}: {fault.message}"
  | blankName index => s!"field #{natText index} has an empty name"
  | reservedName name => s!"field name '{name}' is reserved"
  | repeatedName name => s!"duplicate field name '{name}'"
  | bodyNotJson => "invalid request body"
  | missingData => "request body has no 'data' field"
  | dataNotString => "'data' must be a JSON string"
  | bodyNotText => "request body is not UTF-8"
  | unreadable path cause => s!"failed to read {path.text}: {cause.message}"

/-- The fault in words, with its kind. -/
def SchemaFault.message (f : SchemaFault) : String :=
  "schema parse error: " ++ f.detail

/-! ## Fields -/

/-- The tag that the type of a field stands for; only texts are tags, all else is unknown. -/
def tagOfType : Option Json.Value → String
  | none | some .null => ""
  | some (.string s) => s
  | some v => v.compact

/-- The options that are texts, if there is a list of options. -/
def optionsOf : Option Json.Value → Option (List String)
  | some (.array items) => some (items.filterMap Json.Value.string?)
  | _ => none

/-- The flag, if it is one. -/
def flagOf : Option Json.Value → Option Bool
  | some (.bool b) => some b
  | _ => none

/-- The text that a value has to be. -/
def textOf : Json.Value → Except FieldFault String
  | .string s => .ok s
  | v => .error (.wrongType v .string)

/-- The field that an object describes: the name has to be a text, the rest is taken as it comes. -/
def fieldOfMembers (members : Json.Members) : Except FieldFault FieldSpec :=
  match members.get? "name" with
  | none => .error .missingName
  | some v =>
    match textOf v with
    | .error e => .error e
    | .ok name =>
      .ok ⟨name, tagOfType (members.get? "type"), optionsOf (members.get? "options"),
        flagOf (members.get? "required")⟩

/-- The options in the third place of an array. -/
def optionsAt : Option Json.Value → Except FieldFault (Option (List String))
  | none | some .null => .ok none
  | some (.array items) => do return some (← items.mapM textOf)
  | some v => .error (.wrongType v .sequence)

/-- The flag in the fourth place of an array. -/
def flagAtPlace : Option Json.Value → Except FieldFault (Option Bool)
  | none | some .null => .ok none
  | some (.bool b) => .ok (some b)
  | some v => .error (.wrongType v .boolean)

/-- The field that an array describes: name, tag and, unless they are left out, options and flag. -/
def fieldOfItems (items : List Json.Value) : Except FieldFault FieldSpec :=
  match items with
  | [] => .error (.tooShort 0)
  | nameItem :: rest =>
    match textOf nameItem, rest with
    | .error e, _ => .error e
    | .ok _, [] => .error (.tooShort 1)
    | .ok name, tagItem :: rest => do
      let tag ← textOf tagItem
      let options? ← optionsAt rest[0]?
      let required? ← flagAtPlace rest[1]?
      if 2 < rest.length then throw (.tooLong items.length)
      return ⟨name, tag, options?, required?⟩

/-- The field that an item of the field list describes. -/
def FieldSpec.ofValue : Json.Value → Except FieldFault FieldSpec
  | .object members => fieldOfMembers members
  | .array items => fieldOfItems items
  | v => .error (.wrongType v .field)

/-- The names that every record has without being told. -/
def reservedNames : List String := ["_id", "createdAt", "updatedAt"]

/-- The field at a place of the list, when `seen` are the names of the fields before it. -/
def fieldAt (seen : List String) (index : Nat) (item : Json.Value) :
    Except SchemaFault FieldSpec :=
  match FieldSpec.ofValue item with
  | .error e => .error (.badField index e)
  | .ok f =>
    if isBlankText f.name then .error (.blankName index)
    else if reservedNames.contains f.name then .error (.reservedName f.name)
    else if seen.contains f.name then .error (.repeatedName f.name)
    else .ok f

/-- The fields of items that come after `seen.length` others. -/
def fieldsOfItems (seen : List String) : List Json.Value → Except SchemaFault (List FieldSpec)
  | [] => .ok []
  | item :: rest => do
    let f ← fieldAt seen seen.length item
    return f :: (← fieldsOfItems (f.name :: seen) rest)

/-- The fields of a field list; there may be no list. -/
def fieldsOf : Option Json.Value → Except SchemaFault (List FieldSpec)
  | none | some .null => .ok []
  | some (.array items) => fieldsOfItems [] items
  | some _ => .error .fieldsNotArray

/-! ## Schemas -/

/-- The naming block. -/
def namingOf : Option Json.Value → Except SchemaFault Json.Members
  | some (.object block) => .ok block
  | some _ => .error .namingNotObject
  | none => .error .missingNaming

/-- The schema that a document is. -/
def Schema.ofValue (document : Json.Value) : Except SchemaFault Schema :=
  match document with
  | .object _ => do
    let naming ← namingOf (document.get? namingKey)
    let fields ← fieldsOf (document.get? fieldsKey)
    return ⟨fields, naming, document⟩
  | _ => .error .notObject

/-- The schema that a text spells. -/
def Schema.parse (s : String) : Except SchemaFault Schema :=
  match Json.parse? s with
  | some v => Schema.ofValue v
  | none => .error .notJson

/-- The text of the schema in the body of a request: a string, or an object in its place. -/
def requestedSchema (body : String) : Except SchemaFault String :=
  match Json.parse? body with
  | none => .error .bodyNotJson
  | some v =>
    match v.get? "data" with
    | some (.string s) => .ok s
    | some (.object members) => .ok (Json.Value.object members).compact
    | some _ => .error .dataNotString
    | none => .error .missingData

end EntitySlice
