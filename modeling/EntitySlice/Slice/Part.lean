import EntitySlice.Slice.Bulk.Delete
import EntitySlice.Slice.Bulk.DynamicUpdate
import EntitySlice.Slice.Bulk.Edit
import EntitySlice.Slice.Bulk.Update
import EntitySlice.Slice.Client.EntityData
import EntitySlice.Slice.Client.ListPage
import EntitySlice.Slice.Client.QueryClient
import EntitySlice.Slice.Client.Store
import EntitySlice.Slice.Component.Edit
import EntitySlice.Slice.Component.Export
import EntitySlice.Slice.Component.Filter
import EntitySlice.Slice.Component.Summary
import EntitySlice.Slice.Component.View
import EntitySlice.Slice.Picker.File
import EntitySlice.Slice.Server.Model
import EntitySlice.Slice.Server.Route

/-!
# Parts of a slice

A slice has a fixed list of parts. Each part is one file at a fixed place, but for the last one,
which is a file for each component that the fields are edited with.
-/

namespace EntitySlice.Slice

/-- A part of a slice. -/
inductive Part
  | sliceSchema | model | controller | route | querySlice | uiStore | entityData | page
  | add | edit | view | delete | table | bulkEdit | bulkUpdate | bulkDynamicUpdate | bulkDelete
  | filter | summary | exportData | pickers
  deriving DecidableEq, Repr

/-- What is in a file. -/
inductive Content
  /-- A JSON document over several lines. -/
  | document (v : Json.Value)
  /-- A module. -/
  | source (f : Source.File)

/-- What is in a file, as text. -/
def Content.text : Content → String
  | .document v => v.indented ++ "\n"
  | .source f => f.text

/-- A file of a slice. -/
structure SliceFile where
  part : Part
  path : Path
  content : Content

namespace Part

/-- Every part, in the order in which the files are written. -/
def all : List Part :=
  [sliceSchema, model, controller, route, querySlice, uiStore, entityData, page, add, edit, view,
    delete, table, bulkEdit, bulkUpdate, bulkDynamicUpdate, bulkDelete, filter, summary, exportData,
    pickers]

theorem mem_all (p : Part) : p ∈ all := by
  cases p <;> decide

/-- The name of a part. -/
def name : Part → String
  | sliceSchema => "sliceSchema"
  | model => "model"
  | controller => "controller"
  | route => "route"
  | querySlice => "querySlice"
  | uiStore => "uiStore"
  | entityData => "entityData"
  | page => "page"
  | add => "componentAdd"
  | edit => "componentEdit"
  | view => "componentView"
  | delete => "componentDelete"
  | table => "componentTable"
  | bulkEdit => "componentBulkEdit"
  | bulkUpdate => "componentBulkUpdate"
  | bulkDynamicUpdate => "componentBulkDynamicUpdate"
  | bulkDelete => "componentBulkDelete"
  | filter => "componentFilter"
  | summary => "componentSummary"
  | exportData => "componentExport"
  | pickers => "otherFieldTypeWidgets"

/-- The files of a part that are there for every entity: places and what is in them. -/
def single? (e : Entity) : Part → Option (Path × Content)
  | sliceSchema => some (e.sliceDir / "slice-schema/slice-schema.json", .document e.document)
  | model => some (e.sliceDir / "api/v1/model.ts", .source (Slice.model e))
  | controller => some (e.sliceDir / "api/v1/controller.ts", .source (Slice.controller e))
  | route => some (e.sliceDir / "api/v1/route.ts", .source (Slice.route e))
  | querySlice => some (e.pageDir / "redux/rtk-api.ts", .source (queryClient e))
  | uiStore => some (e.pageDir / "store/store.ts", .source (Slice.uiStore e))
  | entityData => some (e.pageDir / "store/data/data.ts", .source (Slice.entityData e))
  | page => some (e.pageDir / "page.tsx", .source (listPage e))
  | add => some (e.componentDir / "Add.tsx", .source (addDialog e))
  | edit => some (e.componentDir / "Edit.tsx", .source (editDialog e))
  | view => some (e.componentDir / "View.tsx", .source (viewDialog e))
  | delete => some (e.componentDir / "Delete.tsx", .source (deleteDialog e))
  | table => some (e.componentDir / "TableView.tsx", .source (tableView e))
  | bulkEdit => some (e.componentDir / "BulkEdit.tsx", .source (bulkEditDialog e))
  | bulkUpdate => some (e.componentDir / "BulkUpdate.tsx", .source (bulkUpdateDialog e))
  | bulkDynamicUpdate =>
    some (e.componentDir / "BulkDynamicUpdate.tsx", .source (bulkDynamicUpdateDialog e))
  | bulkDelete => some (e.componentDir / "BulkDelete.tsx", .source (bulkDeleteDialog e))
  | filter => some (e.componentDir / "FilterDialog.tsx", .source (filterDialog e))
  | summary => some (e.componentDir / "Summary.tsx", .source (summaryDialog e))
  | exportData => some (e.componentDir / "Export.tsx", .source (exportDialog e))
  | pickers => none

/-- The directory of the components that the fields are edited with. -/
def pickersDir (e : Entity) : Path := e.componentDir / "others-field-type"

/-- The place of a component that fields are edited with. -/
def pickerPath (e : Entity) (p : Picker) : Path := pickersDir e / (p.component ++ ".tsx")

/-- The file of a component that fields are edited with, if it can be rendered. -/
def pickerSliceFile? (e : Entity) (p : Picker) : Option SliceFile :=
  (pickerFile? p).map fun f => ⟨pickers, pickerPath e p, .source f⟩

/-- The files of a part, if all of them can be rendered. -/
def files? (e : Entity) (p : Part) : Option (List SliceFile) :=
  match p.single? e with
  | some (path, content) => some [⟨p, path, content⟩]
  | none => e.pickers.mapM (pickerSliceFile? e)

end Part

end EntitySlice.Slice
