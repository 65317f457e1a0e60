import EntitySlice.Slice.Picker.Choice

/-!
# Components for dates and times

The bodies of the components for days, times of day and ranges of them.
-/

namespace EntitySlice.Slice

open EntitySlice.Source

/-- The function that writes a date the way an input element takes it. -/
def toInput : List Line :=
  block r"const toInput = (date: Date | string) => {"
    (code
      ["const parsed = new Date(date);",
       "return Number.isNaN(parsed.getTime()) ? '' : parsed.toISOString().slice(0, 10);"])
    r"};"

/-- An input element with its attributes on lines of their own. -/
def tallInput (attributes : List Attribute) : List Line :=
  block "<input" (attributes.map fun a => Line.code a.source) "/>"

/-- What stands between the two ends of a range. -/
def rangeSeparator : Line := around ⟨"span", [classes "text-sm text-gray-500"]⟩ "to"

/-- The element around the two ends of a range. -/
def rangeElement (body : List Line) : List Line :=
  element ⟨"div", [attrCode "id" "id", classes "flex items-center gap-2"]⟩ body

/-- A day. -/
def dateBody : List Line :=
  paragraphs
    [toInput,
     block "return ("
      (tallInput [attrCode "id" "id", attr "type" "date", classes inputStyle,
        attrCode "value" "value ? toInput(value) : ''",
        onChange "(e) => onChange(new Date(e.target.value))"])
      ");"]

/-- A time of day. -/
def timeBody : List Line :=
  let input : Element :=
    ⟨"input", [attrCode "id" "id", attr "type" "time", classes inputStyle,
      attrCode "value" "value ?? ''", onChange "(e) => onChange(e.target.value)"]⟩
  code ["return " ++ input.emptyTag ++ ";"]

/-- The input element for one end of a range of days. -/
def dateEnd (name start finish : String) : List Line :=
  let date (value : String) : String := "new Date(" ++ value ++ ")"
  tallInput
    [attr "type" "date", classes inputStyle, attrCode "value" ("toInput(range." ++ name ++ ")"),
     onChange ("(e) => onChange("
       ++ object [.entry "start" (date start), .entry "end" (date finish)] ++ ")")]

/-- A range of days. -/
def dateRangeBody : List Line :=
  paragraphs
    [toInput ++ code [r"const range = value ?? { start: new Date(), end: new Date() };"],
     block "return ("
      (rangeElement
        (dateEnd "start" "e.target.value" "range.end" ++ [rangeSeparator]
          ++ dateEnd "end" "range.start" "e.target.value"))
      ");"]

/-- The input element for one end of a range of times. -/
def timeEnd (name : String) : Line :=
  leaf ⟨"input", [attr "type" "time", classes inputStyle, attrCode "value" ("range." ++ name),
    onChange ("(e) => onChange(" ++ object [.spread "range", .entry name "e.target.value"] ++ ")")]⟩

/-- A range of times of day. -/
def timeRangeBody : List Line :=
  paragraphs
    [code [r"const range = value ?? { start: '', end: '' };"],
     block "return (" (rangeElement [timeEnd "start", rangeSeparator, timeEnd "end"]) ");"]

end EntitySlice.Slice
