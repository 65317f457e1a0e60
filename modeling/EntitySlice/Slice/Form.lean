import EntitySlice.Entity.Basic
import EntitySlice.Slice.Style
import EntitySlice.Source.File

/-!
# Form elements

How a field appears in the components of a slice: its label, the input element that edits it, the
expression that shows it. An input element is bound to a value and a statement that stores a new
one; both are up to the component.
-/

namespace EntitySlice.Slice

open EntitySlice.Source

/-- The label of a field. -/
def label (f : Field) : String := markupText f.title

/-- The id of the input element of a field in a component with the given name. -/
def elementId (component : String) (f : Field) : String := component ++ "-" ++ f.localKey

/-- The members of an object like `state` but for the value of a field. -/
def updatedMembers (state : String) (f : Field) (value : String) : List Member :=
  [.spread state, .entry (propertyKey f.name) value]

/-- The statement that hands `setter` an object like `state` but for the value of a field. -/
def storeField (setter state : String) (f : Field) (value : String) : String :=
  setter ++ "(" ++ object (updatedMembers state f value) ++ ")"

/-- The options of a field as an array. -/
def optionsArray (f : Field) : String := literalList f.options

/-! ## Input elements -/

/-- The attribute for the options of a field, if its widget has options to choose from. -/
def optionsAttribute (f : Field) : List Attribute :=
  if f.widget.usesOptions then [attrCode "options" (optionsArray f)] else []

/-- What an input element does on a change, given the expression for the new value. -/
def onInput (store : String → String) (value : String) : Attribute :=
  onChange ("(e) => " ++ store value)

/--
The element that edits a field: `value` is the expression for the value shown, `store` makes the
statement that keeps a new value from the expression for it.
-/
def inputElement (f : Field) (value : String) (store : String → String) (id : AttributeValue) :
    Element :=
  let idAttribute : Attribute := ⟨"id", id⟩
  let shown := attrCode "value" value
  let text := onInput store "e.target.value"
  match f.widget.picker? with
  | some p =>
    ⟨p.component, idAttribute :: shown :: optionsAttribute f
      ++ [onChange ("(value) => " ++ store "value")]⟩
  | none =>
    match f.widget with
    | .textarea => ⟨"textarea", [idAttribute, attrCode "rows" "4", classes inputStyle, shown, text]⟩
    | .boolean | .checkbox =>
      ⟨"input", [idAttribute, attr "type" f.widget.inputType, classes "h-4 w-4",
        attrCode "checked" ("Boolean(" ++ value ++ ")"), onInput store "e.target.checked"]⟩
    | .integer =>
      ⟨"input", [idAttribute, attr "type" f.widget.inputType, attr "step" "1", classes inputStyle,
        shown, onInput store "parseInt(e.target.value || '0', 10)"]⟩
    | .float =>
      ⟨"input", [idAttribute, attr "type" f.widget.inputType, attr "step" "any", classes inputStyle,
        shown, onInput store "parseFloat(e.target.value || '0')"]⟩
    | w => ⟨"input", [idAttribute, attr "type" w.inputType, classes inputStyle, shown, text]⟩

/-- The label of the element with an id. -/
def labelElement (id : String) : Element := ⟨"label", [attr "htmlFor" id, classes labelStyle]⟩

/-- The mark behind the label of a field that must have a value. -/
def requiredMark (f : Field) : String := if f.isRequired then " *" else ""

/-- The labelled input element for a field of `state`, which `setter` changes. -/
def fieldInput (state setter component : String) (f : Field) : List Line :=
  let id := elementId component f
  division "mb-4"
    [around (labelElement id) (label f ++ requiredMark f),
     leaf (inputElement f (member state f.name) (storeField setter state f) (.text id))]

/-! ## Values shown -/

/-- The expression for the text that shows the field of an object. -/
def shownText (f : Field) (object : String) : String :=
  let v := member object f.name
  match f.widget with
  | .richText => "String(" ++ v ++ " ?? '').replace(/<[^>]*>/g, '')"
  | .boolean | .checkbox => "(" ++ v ++ " ? 'Yes' : 'No')"
  | .date => "(" ++ v ++ " ? new Date(" ++ v ++ ").toLocaleDateString() : '')"
  | .dateRange =>
    "(" ++ v ++ r" ? `${new Date(" ++ v ++ r".start).toLocaleDateString()} - ${new Date(" ++ v
      ++ r".end).toLocaleDateString()}` : '')"
  | .timeRange => "(" ++ v ++ r" ? `${" ++ v ++ r".start} - ${" ++ v ++ r".end}` : '')"
  | .image => v
  | .multiSelect | .multiCheckbox | .stringArray | .images => "(" ++ v ++ " ?? []).join(', ')"
  | _ => "String(" ++ v ++ " ?? '')"

/-! ## Imports -/

/-- The import of a component for a widget. -/
def pickerImport (p : Picker) : Import :=
  .byDefault p.component ("./others-field-type/" ++ p.component)

/-- The imports of the components that the fields of an entity are edited with. -/
def pickerImports (e : Entity) : List Item := e.pickers.map fun p => .imported (pickerImport p)

end EntitySlice.Slice
