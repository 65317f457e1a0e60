import EntitySlice.Source.Line

/-!
# Look of the components

The style classes that the components of a slice share, and the elements that differ in nothing but
these.
-/

namespace EntitySlice.Slice

open EntitySlice.Source

/-- The look of an input element. -/
def inputStyle : String := "w-full rounded border border-gray-300 px-3 py-2 text-sm"

/-- The look of a label above an input element. -/
def labelStyle : String := "mb-1 block text-sm font-medium text-gray-700"

/-- The look of the button that goes on. -/
def primaryStyle : String :=
  "rounded bg-blue-600 px-4 py-2 text-sm text-white hover:bg-blue-700 disabled:opacity-50"

/-- The look of a button beside the one that goes on. -/
def secondaryStyle : String := "rounded border border-gray-300 px-4 py-2 text-sm hover:bg-gray-50"

/-- The look of a button that cannot be undone. -/
def dangerStyle : String :=
  "rounded bg-red-600 px-4 py-2 text-sm text-white hover:bg-red-700 disabled:opacity-50"

/-- The look of a note that something went wrong. -/
def alertStyle : String := "text-sm text-red-600"

/-- The look of a note that something takes time. -/
def waitStyle : String := "text-sm text-gray-500"

/-- An element that only groups others. -/
def division (style : String) (body : List Line) : List Line :=
  element ⟨"div", [classes style]⟩ body

/-- A paragraph on one line. -/
def paragraphElement (style : String) : Element := ⟨"p", [classes style]⟩

/-- A paragraph on one line. -/
def paragraph (style text : String) : Line := around (paragraphElement style) text

/-- A paragraph that is there only if a condition holds. -/
def paragraphIf (condition style text : String) : Line :=
  let p := paragraphElement style
  Line.code (braced (condition ++ " && " ++ p.openingTag ++ text ++ p.closingTag))

/-- A button on one line. -/
def button (style : String) (attributes : List Attribute) (text : String) : Line :=
  around ⟨"button", classes style :: attributes⟩ text

/-- A button whose text changes while it works. -/
def busyButton (style : String) (attributes : List Attribute) (busy idle : String) : List Line :=
  element ⟨"button", classes style :: attributes⟩
    [Line.code ("\x7bisLoading ? " ++ literal busy ++ " : " ++ literal idle ++ "\x7d")]

/-- Lines repeated for each item of a list. -/
def forEach (items parameters : String) (body : List Line) : List Line :=
  block (r"{" ++ items ++ ".map((" ++ parameters ++ ") => (") body r"))}"

/-- Lines that are there only if a condition holds. -/
def onlyIf (condition : String) (body : List Line) : List Line :=
  block (r"{" ++ condition ++ " && (") body r")}"

end EntitySlice.Slice
