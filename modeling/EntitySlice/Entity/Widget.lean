import EntitySlice.Text.CaseMapping

/-!
# Widgets

A field of an entity is edited with one of 25 widgets. The widget follows from the type tag that
the schema gives to the field (`Widget.ofTag?`); it fixes the kind of value that the field holds.
Some widgets are an input element of their own, the others have a component in a file of its own,
their picker (`Widget.picker?`).
-/

namespace EntitySlice

open EntitySlice.Text

/-- What the value of a field is. -/
inductive ValueKind
  | string | integer | float | boolean | date | time | dateRange | timeRange | stringList
  deriving DecidableEq, Repr

namespace ValueKind

/-- The name of the kind. -/
def name : ValueKind → String
  | string => "string"
  | integer => "integer"
  | float => "float"
  | boolean => "boolean"
  | date => "date"
  | time => "time"
  | dateRange => "dateRange"
  | timeRange => "timeRange"
  | stringList => "stringList"

/-- The type of the values in the code of the slice. -/
def codeType : ValueKind → String
  | string | time => "string"
  | integer | float => "number"
  | boolean => "boolean"
  | date => "Date"
  | dateRange => r"{ start: Date; end: Date }"
  | timeRange => r"{ start: string; end: string }"
  | stringList => "string[]"

/-- The type of the values in the database. -/
def storedType : ValueKind → String
  | string | time => "String"
  | integer | float => "Number"
  | boolean => "Boolean"
  | date => "Date"
  | dateRange => r"{ start: Date, end: Date }"
  | timeRange => r"{ start: String, end: String }"
  | stringList => "[String]"

/-- Whether the values are numbers. -/
def isNumeric : ValueKind → Bool
  | integer | float => true
  | _ => false

end ValueKind

/-- How a field is edited and shown. -/
inductive Widget
  | text | email | url | phone | password | integer | float | boolean | checkbox | date | time
  | dateRange | timeRange | color | textarea | richText | select | radio | autocomplete
  | dynamicSelect | multiSelect | multiCheckbox | stringArray | image | images
  deriving DecidableEq, Repr

/-- A component for the widgets that need more than an input element. -/
inductive Picker
  | date | time | dateRange | timeRange | color | richText | select | radio | autocomplete
  | dynamicSelect | multiSelect | multiCheckbox | stringArray | image | images
  deriving DecidableEq, Repr

namespace Widget

/-- Every widget, in the order in which they are listed. -/
def all : List Widget :=
  [text, email, url, phone, password, integer, float, boolean, checkbox, date, time, dateRange,
    timeRange, color, textarea, richText, select, radio, autocomplete, dynamicSelect, multiSelect,
    multiCheckbox, stringArray, image, images]

theorem mem_all (w : Widget) : w ∈ all := by
  cases w <;> decide

/-- The name of the widget. -/
def name : Widget → String
  | text => "text"
  | email => "email"
  | url => "url"
  | phone => "phone"
  | password => "password"
  | integer => "integer"
  | float => "float"
  | boolean => "boolean"
  | checkbox => "checkbox"
  | date => "date"
  | time => "time"
  | dateRange => "dateRange"
  | timeRange => "timeRange"
  | color => "color"
  | textarea => "textarea"
  | richText => "richText"
  | select => "select"
  | radio => "radio"
  | autocomplete => "autocomplete"
  | dynamicSelect => "dynamicSelect"
  | multiSelect => "multiSelect"
  | multiCheckbox => "multiCheckbox"
  | stringArray => "stringArray"
  | image => "image"
  | images => "images"

/-- The tags that mean the widget, in small letters and without separators. -/
def tags : Widget → List String
  | text => ["string", "text", "name"]
  | email => ["email"]
  | url => ["url", "link", "website"]
  | phone => ["phone", "phonenumber", "tel"]
  | password => ["password"]
  | integer => ["int", "integer", "intnumber", "number"]
  | float => ["float", "floatnumber", "decimal", "double"]
  | boolean => ["bool", "boolean", "switch", "toggle"]
  | checkbox => ["checkbox"]
  | date => ["date", "datetime"]
  | time => ["time"]
  | dateRange => ["daterange"]
  | timeRange => ["timerange"]
  | color => ["color", "colorpicker"]
  | textarea => ["textarea", "description", "longtext"]
  | richText => ["richtext", "richtexteditor", "editor", "html"]
  | select => ["select", "singleselect", "dropdown"]
  | radio => ["radio", "radiobutton"]
  | autocomplete => ["autocomplete"]
  | dynamicSelect => ["dynamicselect"]
  | multiSelect => ["multiselect", "multioptions"]
  | multiCheckbox => ["multicheckbox"]
  | stringArray => ["stringarray", "array", "tags", "stringlist"]
  | image => ["image", "imageupload"]
  | images => ["images", "imagesupload", "gallery"]

/-- The characters that a tag may have anywhere without a change of meaning. -/
def isTagSeparator (c : Char) : Bool :=
  c = '-' || c = '_' || c = ' '

/-- A tag in small letters and without separators. -/
def normalTag (tag : String) : String :=
  String.ofList (lowerEach (tag.toList.filter fun c => !isTagSeparator c))

/-- The widget that a tag means. -/
def ofTag? (tag : String) : Option Widget :=
  all.find? fun w => w.tags.contains (normalTag tag)

/-- What a field with this widget holds. -/
def valueKind : Widget → ValueKind
  | integer => .integer
  | float => .float
  | boolean | checkbox => .boolean
  | date => .date
  | time => .time
  | dateRange => .dateRange
  | timeRange => .timeRange
  | multiSelect | multiCheckbox | stringArray | images => .stringList
  | _ => .string

/-- The component of the widget, if it has one. -/
def picker? : Widget → Option Picker
  | select => some .select
  | radio => some .radio
  | autocomplete => some .autocomplete
  | dynamicSelect => some .dynamicSelect
  | multiSelect => some .multiSelect
  | multiCheckbox => some .multiCheckbox
  | stringArray => some .stringArray
  | richText => some .richText
  | date => some .date
  | time => some .time
  | dateRange => some .dateRange
  | timeRange => some .timeRange
  | color => some .color
  | image => some .image
  | images => some .images
  | text | email | url | phone | password | integer | float | boolean | checkbox | textarea => none

/-- The type of the input element of a widget. -/
def inputType : Widget → String
  | email => "email"
  | url => "url"
  | phone => "tel"
  | password => "password"
  | integer | float => "number"
  | boolean | checkbox => "checkbox"
  | _ => "text"

/-- Whether the value is chosen from the options of the field. -/
def usesOptions : Widget → Bool
  | select | radio | autocomplete | dynamicSelect | multiSelect | multiCheckbox => true
  | _ => false

/-- Whether a search for a text looks at the field. -/
def isSearchable : Widget → Bool
  | text | email | url | phone | textarea | select | radio | autocomplete | dynamicSelect => true
  | _ => false

end Widget

namespace Picker

/-- The widget that the component belongs to. -/
def widget : Picker → Widget
  | date => .date
  | time => .time
  | dateRange => .dateRange
  | timeRange => .timeRange
  | color => .color
  | richText => .richText
  | select => .select
  | radio => .radio
  | autocomplete => .autocomplete
  | dynamicSelect => .dynamicSelect
  | multiSelect => .multiSelect
  | multiCheckbox => .multiCheckbox
  | stringArray => .stringArray
  | image => .image
  | images => .images

/-- The name of the component and of its file. -/
def component : Picker → String
  | date => "DateField"
  | time => "TimeField"
  | dateRange => "DateRangeField"
  | timeRange => "TimeRangeField"
  | color => "ColorPickerField"
  | richText => "RichTextField"
  | select => "SelectField"
  | radio => "RadioButtonField"
  | autocomplete => "AutocompleteField"
  | dynamicSelect => "DynamicSelectField"
  | multiSelect => "MultiSelectField"
  | multiCheckbox => "MultiCheckboxField"
  | stringArray => "StringArrayField"
  | image => "ImageUploadField"
  | images => "ImagesUploadField"

/-- The type of the values that the component takes; dates may also come as texts. -/
def valueType : Picker → String
  | date => "Date | string"
  | dateRange => r"{ start: Date | string; end: Date | string }"
  | p => p.widget.valueKind.codeType

/-- Each component belongs to one widget. -/
theorem picker?_eq_some_iff {w : Widget} {p : Picker} : w.picker? = some p ↔ w = p.widget := by
  cases w <;> cases p <;> simp [Widget.picker?, widget]

end Picker

end EntitySlice
