import EntitySlice.Entity.Widget
import EntitySlice.Slice.Picker.Entry
import EntitySlice.Slice.Picker.Time
import EntitySlice.Source.File

/-!
# Files of the components for widgets

Each widget that needs more than an input element has a component with a value, a function that
takes a new value and, where the value is chosen, the options.
-/

namespace EntitySlice.Slice

open EntitySlice.Source

/-- The names of the state library that a component uses. -/
def pickerHooks : Picker → List String
  | .autocomplete | .dynamicSelect | .stringArray => ["useState"]
  | .images => ["useRef"]
  | _ => []

/-- The statements of the component for a widget; a widget that is an input element has none. -/
def widgetBody? : Widget → Option (List Line)
  | .select => some selectBody
  | .radio => some radioBody
  | .autocomplete => some autocompleteBody
  | .dynamicSelect => some dynamicSelectBody
  | .multiSelect => some multiSelectBody
  | .multiCheckbox => some multiCheckboxBody
  | .stringArray => some stringArrayBody
  | .richText => some richTextBody
  | .date => some dateBody
  | .time => some timeBody
  | .dateRange => some dateRangeBody
  | .timeRange => some timeRangeBody
  | .color => some colorBody
  | .image => some imageBody
  | .images => some imagesBody
  | .text | .email | .url | .phone | .password | .integer | .float | .boolean | .checkbox
  | .textarea => none

/-- The sections before the properties of a component. -/
def pickerImportSections (p : Picker) : List (List Item) :=
  match p with
  | .richText =>
    [[.imported (.byDefault "dynamic" "next/dynamic"),
      .imported { source := "react-quill/dist/quill.snow.css" }],
     [.declared (.const false "ReactQuill"
       { first := r" = dynamic(() => import('react-quill'), { ssr: false });" })]]
  | p => if (pickerHooks p).isEmpty then [[]] else [[.imported (.named (pickerHooks p) "react")]]

/-- The name of the interface of the properties of a component. -/
def propsName (p : Picker) : String := p.component ++ "Props"

/-- The properties of a component. -/
def pickerProps (p : Picker) : List Line :=
  [propertyLine "id?" "string", propertyLine "value" p.valueType,
    propertyLine "onChange" ("(value: " ++ p.widget.valueKind.codeType ++ ") => void")]
    ++ if p.widget.usesOptions then [propertyLine "options" "string[]"] else []

/-- The names of the properties of a component. -/
def propNames (p : Picker) : List String :=
  ["id", "value", "onChange"] ++ if p.widget.usesOptions then ["options"] else []

/-- The module of a component for a widget with its statements. -/
def pickerFile (p : Picker) (body : List Line) : File where
  sections :=
    [[.directive "use client"]]
    ++ pickerImportSections p
    ++ [[.declared (.interface false (propsName p) (pickerProps p))],
        [.declared (.main p.component (inBraces (propNames p) ++ ": " ++ propsName p) body)]]

/-- The module of a component, if its widget has statements. -/
def pickerFile? (p : Picker) : Option File :=
  (widgetBody? p.widget).map (pickerFile p)

end EntitySlice.Slice
