import EntitySlice.Entity.Naming
import EntitySlice.Entity.Root
import EntitySlice.Entity.Schema

/-!
# Entities

An entity is what a schema describes once its names are resolved and its fields are classified:
all that the files of its slice depend on.
-/

namespace EntitySlice

/-- An entity with all that its slice is made from. -/
structure Entity where
  naming : Naming
  fields : List Field
  /-- The document of the schema, which goes into the slice too. -/
  document : Json.Value

namespace Entity

/-- The root that the slice goes to. -/
def root (e : Entity) : SliceRoot := .ofFlag e.naming.generateFolder

/-- The directory of the slice. -/
def sliceDir (e : Entity) : Path := e.root.sliceDir e.naming.folder

/-- The directory of the page. -/
def pageDir (e : Entity) : Path := e.sliceDir / "all"

/-- The directory of the components of the page. -/
def componentDir (e : Entity) : Path := e.pageDir / "components"

/-- The address of a place of the slice. -/
def address (e : Entity) (place : String) : String :=
  "/" ++ e.root.name ++ "/" ++ e.naming.folder ++ "/" ++ place

/-- The address that requests of the slice go to. -/
def requestAddress (e : Entity) : String := e.address "api/v1"

/-- The address of the page. -/
def pageAddress (e : Entity) : String := e.address "all"

/-- The fields that a search for a text looks at. -/
def searchable (e : Entity) : List Field := e.fields.filter (·.widget.isSearchable)

/-- The fields that hold numbers. -/
def numeric (e : Entity) : List Field := e.fields.filter (·.valueKind.isNumeric)

/-- Whether some field has the widget. -/
def uses (e : Entity) (w : Widget) : Bool := e.fields.any (·.widget = w)

/-- The components that the fields are edited with, each once, in the order of the widgets. -/
def pickers (e : Entity) : List Picker := (Widget.all.filter e.uses).filterMap Widget.picker?

end Entity

end EntitySlice
