import EntitySlice.Entity.Widget
import EntitySlice.Json.Printer
import EntitySlice.Number.Whole
import EntitySlice.Source.Literal
import Std.Data.HashSet

/-!
# Fields

A schema describes each field of an entity by its name, a type tag, options and a flag. The widget,
the default value and the validator of a field are its classification and follow from this
description; `Field.ofSpecs` adds a key that no other field of the entity has. A tag that means no
widget is no error: the field is edited as a text, and a warning says so.
-/

namespace EntitySlice

open EntitySlice.Number

/-- A field as a schema describes it. -/
structure FieldSpec where
  name : String
  tag : String
  options? : Option (List String) := none
  required? : Option Bool := none
  deriving DecidableEq, Repr, Inhabited

namespace FieldSpec

/-- Whether a record must have a value for the field. -/
def isRequired (f : FieldSpec) : Bool :=
  f.required?.getD false

/-- The values to choose from. -/
def options (f : FieldSpec) : List String :=
  f.options?.getD []

/-- The description as JSON. -/
def json (f : FieldSpec) : Json.Value :=
  .object <|
    [("name", .string f.name), ("type", .string f.tag)]
      ++ f.options?.toList.map (fun os => ("options", .array (os.map .string)))
      ++ f.required?.toList.map (fun b => ("required", .bool b))

end FieldSpec

/-! ## Default values -/

/-- The value of a field in a new record. -/
inductive DefaultValue
  | emptyString
  | integer (n : Int)
  | float (x : Binary64)
  | bool (b : Bool)
  /-- The day on which the record is begun. -/
  | now
  /-- The time of day at which the record is begun. -/
  | currentTime
  | nowRange
  | currentTimeRange
  | emptyList
  deriving DecidableEq, Repr

/--
A number as a literal: all digits of a whole number, else the shortest digits, no exponent. A number
halfway between two shortest numerals gets the one farther from zero.
-/
def floatLiteral : Binary64 → String
  | .notANumber => "NaN"
  | .infinite false => "inf"
  | .infinite true => "-inf"
  | .finite x =>
    String.ofList <|
      x.signChars ++ if x.isWhole then natChars x.wholePart else (x.shortest .away).positional false

theorem floatLiteral_zero : floatLiteral (.finite (.zero false)) = "0" := by
  simp only [floatLiteral, Finite64.isWhole_zero, Finite64.wholePart_zero, if_pos]
  decide

namespace DefaultValue

/-- The kind of the value. -/
def valueKind : DefaultValue → ValueKind
  | emptyString => .string
  | integer _ => .integer
  | float _ => .float
  | bool _ => .boolean
  | now => .date
  | currentTime => .time
  | nowRange => .dateRange
  | currentTimeRange => .timeRange
  | emptyList => .stringList

/-- The value that new records have for a kind. -/
def ofKind : ValueKind → DefaultValue
  | .string => emptyString
  | .integer => integer 0
  | .float => float (.finite (.zero false))
  | .boolean => bool false
  | .date => now
  | .time => currentTime
  | .dateRange => nowRange
  | .timeRange => currentTimeRange
  | .stringList => emptyList

/-- The expression for the time of day. -/
def timeExpression : String := "new Date().toTimeString().slice(0, 5)"

/-- The expression for a range that starts and ends with the same value. -/
def rangeExpression (value : String) : String :=
  "\x7b start: " ++ value ++ ", end: " ++ value ++ " \x7d"

/-- The expression for the value. -/
def expression : DefaultValue → String
  | emptyString => "''"
  | integer n => intText n
  | float x => floatLiteral x
  | bool b => if b then "true" else "false"
  | now => "new Date()"
  | currentTime => timeExpression
  | nowRange => rangeExpression "new Date()"
  | currentTimeRange => rangeExpression timeExpression
  | emptyList => "[]"

/-- The name of the value. -/
def name : DefaultValue → String
  | emptyString => "emptyString"
  | integer _ => "integer"
  | float _ => "float"
  | bool _ => "bool"
  | now => "now"
  | currentTime => "currentTime"
  | nowRange => "nowRange"
  | currentTimeRange => "currentTimeRange"
  | emptyList => "emptyList"

/-- What the value carries. -/
def payload? : DefaultValue → Option Json.Value
  | integer n => some (.number (.integer n))
  | float (.finite x) => some (.number (.float x))
  | float _ => some .null
  | bool b => some (.bool b)
  | _ => none

/-- The value as JSON. -/
def json (v : DefaultValue) : Json.Value :=
  .object (("kind", .string v.name) :: v.payload?.toList.map (("value", ·)))

end DefaultValue

/-! ## Validators -/

/-- What the value of a field has to satisfy. -/
inductive Validator
  | none | email | url | phone | integer | number | date | time
  | oneOf (options : List String)
  | nonEmptyList
  deriving DecidableEq, Repr

namespace Validator

/-- The name of the validator. -/
def name : Validator → String
  | none => "none"
  | email => "email"
  | url => "url"
  | phone => "phone"
  | integer => "integer"
  | number => "number"
  | date => "date"
  | time => "time"
  | oneOf _ => "oneOf"
  | nonEmptyList => "nonEmptyList"

/-- The options that the value has to be one of. -/
def options? : Validator → Option (List String)
  | oneOf options => some options
  | _ => Option.none

/-- The validator as JSON. -/
def json (v : Validator) : Json.Value :=
  .object <|
    ("kind", .string v.name) :: v.options?.toList.map fun os => ("options", .array (os.map .string))

/-- The validator of a field. -/
def ofField (w : Widget) (f : FieldSpec) : Validator :=
  match w with
  | .email => email
  | .url => url
  | .phone => phone
  | .integer => integer
  | .float => number
  | .date | .dateRange => date
  | .time | .timeRange => time
  | .select | .radio => if f.options.isEmpty then none else oneOf f.options
  | .multiSelect | .multiCheckbox | .stringArray => if f.isRequired then nonEmptyList else none
  | _ => none

end Validator

/-! ## Warnings -/

/-- What a schema says that is not taken at its word. -/
inductive Warning
  /-- The tag means no widget. -/
  | unknownTag (field tag : String)
  /-- The value of a naming key was replaced. -/
  | corrected (key supplied resolved : String)
  deriving DecidableEq, Repr

namespace Warning

/-- The warning in words. -/
def message : Warning → String
  | unknownTag field tag =>
    s!"UnknownFieldTypeWarning: field '{field}' has unknown type '{tag}', using string widget"
  | corrected key supplied resolved =>
    s!"naming field '{key}' was '{supplied}', resolved to '{resolved}'"

/-- The warning as JSON. -/
def json : Warning → Json.Value
  | unknownTag field tag =>
    .object [("kind", .string "unknownFieldType"), ("field", .string field),
      ("type_tag", .string tag)]
  | corrected key supplied resolved =>
    .object [("kind", .string "namingCorrected"), ("key", .string key),
      ("supplied", .string supplied), ("resolved", .string resolved)]

end Warning

/-! ## Classification -/

/-- What follows from the description of a field. -/
structure Classification where
  widget : Widget
  default : DefaultValue
  validator : Validator
  required : Bool
  deriving DecidableEq, Repr

namespace Classification

/-- The kind of the values. -/
def valueKind (c : Classification) : ValueKind :=
  c.widget.valueKind

/-- The classification as JSON. -/
def json (c : Classification) : Json.Value :=
  .object [("widget", .string c.widget.name), ("default_value", c.default.json),
    ("validator", c.validator.json), ("required", .bool c.required)]

end Classification

namespace FieldSpec

/-- The widget of a field: a tag that means none stands for a text. -/
def widget (f : FieldSpec) : Widget :=
  (Widget.ofTag? f.tag).getD .text

/-- The classification of a field. -/
def classification (f : FieldSpec) : Classification where
  widget := f.widget
  default := .ofKind f.widget.valueKind
  validator := .ofField f.widget f
  required := f.isRequired

/-- The warning about a field with an unknown tag. -/
def warning? (f : FieldSpec) : Option Warning :=
  match Widget.ofTag? f.tag with
  | some _ => none
  | none => some (.unknownTag f.name f.tag)

end FieldSpec

/-- A field with all that is known about it. -/
structure Field where
  spec : FieldSpec
  classification : Classification
  /-- A name for the field that no other field of the entity has and that identifiers may hold. -/
  localKey : String
  deriving DecidableEq, Repr

namespace Field

/-- The name of the field. -/
def name (f : Field) : String := f.spec.name

/-- The values to choose from. -/
def options (f : Field) : List String := f.spec.options

/-- The widget of the field. -/
def widget (f : Field) : Widget := f.classification.widget

/-- The kind of the values of the field. -/
def valueKind (f : Field) : ValueKind := f.classification.valueKind

/-- Whether a record must have a value for the field. -/
def isRequired (f : Field) : Bool := f.classification.required

/-- The words of the name as a title. -/
def title (f : Field) : String := Text.titleCase f.name

/-- The field as JSON. -/
def json (f : Field) : Json.Value :=
  .object [("spec", f.spec.json), ("class", f.classification.json)]

end Field

/-- The keys to try in turn: `base`, `base2`, `base3`, … -/
def keyCandidate (base : String) : Nat → String
  | 0 => base
  | n + 1 => base ++ natText (n + 2)

/-- The first of `fuel` candidates for `base` from number `n` on that is free, or the one after. -/
def freeKeyFrom (taken : Std.HashSet String) (base : String) : (fuel n : Nat) → String
  | 0, n => keyCandidate base n
  | fuel + 1, n =>
    if taken.contains (keyCandidate base n) then freeKeyFrom taken base fuel (n + 1)
    else keyCandidate base n

/--
The first candidate for `base` that is not taken. If as many candidates as there are taken keys are
taken, they are all of these keys, and the next candidate is free.
-/
def freeKey (taken : Std.HashSet String) (base : String) : String :=
  freeKeyFrom taken base taken.size 0

/-- The fields that descriptions stand for, when `taken` are the keys of earlier fields. -/
def Field.ofSpecsAfter (taken : Std.HashSet String) : List FieldSpec → List Field
  | [] => []
  | f :: rest =>
    let key := freeKey taken (Source.namePart f.name)
    ⟨f, f.classification, key⟩ :: Field.ofSpecsAfter (taken.insert key) rest

/-- The fields that the descriptions of a schema stand for. -/
def Field.ofSpecs (specs : List FieldSpec) : List Field :=
  Field.ofSpecsAfter {} specs

/-- The warnings about fields, in the order of the fields. -/
def fieldWarnings (specs : List FieldSpec) : List Warning :=
  specs.filterMap FieldSpec.warning?

end EntitySlice
