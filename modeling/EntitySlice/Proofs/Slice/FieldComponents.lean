import EntitySlice.Proofs.Slice.Files
import EntitySlice.Proofs.Source.Elements

/-!
# Components for fields

The dialogs that edit records use the component of each field that needs more than an input element,
and no other component (`components_of_mem_editorParts`). They import each component once.
-/

namespace EntitySlice.Slice

open EntitySlice.Source

/-! ## Elements for fields -/

/-- The component that a field is edited with. -/
def fieldComponent? (f : Field) : Option String := f.widget.picker?.map Picker.component

theorem isComponentTag_component (p : Picker) : isComponentTag p.component = true := by
  cases p <;> decide

/-- The element that edits a field is the component of the field, if there is one. -/
@[simp] theorem component?_inputElement (f : Field) (value : String) (store : String → String)
    (id : AttributeValue) : (inputElement f value store id).component? = fieldComponent? f := by
  unfold inputElement fieldComponent?
  cases h : f.widget.picker? with
  | some p => simp [Element.component?, isComponentTag_component]
  | none =>
    dsimp only [Option.map_none]
    split <;> simp [isComponentTag]

section Builders

variable (lines : List Line) (s t : String)

@[simp] theorem componentsIn_division : componentsIn (division s lines) = componentsIn lines := by
  simp [division, isComponentTag]

@[simp] theorem componentsIn_button_cons (attributes : List Attribute) :
    componentsIn (button s attributes t :: lines) = componentsIn lines := by
  simp [button, isComponentTag]

@[simp] theorem componentsIn_busyButton (attributes : List Attribute) (u : String) :
    componentsIn (busyButton s attributes t u) = [] := by
  simp [busyButton, isComponentTag]

@[simp] theorem componentsIn_paragraph_cons :
    componentsIn (paragraph s t :: lines) = componentsIn lines := by
  simp [paragraph, paragraphElement, isComponentTag]

@[simp] theorem componentsIn_forEach : componentsIn (forEach s t lines) = componentsIn lines := by
  simp [forEach]

@[simp] theorem componentsIn_onlyIf : componentsIn (onlyIf s lines) = componentsIn lines := by
  simp [onlyIf]

@[simp] theorem componentsIn_buttonRow : componentsIn (buttonRow lines) = componentsIn lines := by
  simp [buttonRow]

/-- A dialog uses what is used in it. -/
@[simp] theorem componentsIn_dialog (width : DialogWidth) :
    componentsIn (dialog s width lines) = componentsIn lines := by
  simp [dialog, isComponentTag]

@[simp] theorem componentsIn_errorList : componentsIn errorList = [] := by
  simp [errorList, isComponentTag]

@[simp] theorem component?_labelElement (id : String) : (labelElement id).component? = none := by
  simp [labelElement, isComponentTag]

@[simp] theorem componentsIn_fieldInput (f : Field) (u : String) :
    componentsIn (fieldInput s t u f) = (fieldComponent? f).toList := by
  simp [fieldInput]

@[simp] theorem componentsIn_closeFunction (before : List String) :
    componentsIn (closeFunction s before) = [] := by
  simp [closeFunction]

@[simp] theorem componentsIn_tryBlock (statements : List String) :
    componentsIn (tryBlock statements s) = [] := by
  simp [tryBlock]

@[simp] theorem componentsIn_asyncFunction :
    componentsIn (asyncFunction s lines) = componentsIn lines := by
  simp [asyncFunction]

@[simp] theorem componentsIn_closeButton_cons :
    componentsIn (closeButton s :: lines) = componentsIn lines := by
  simp [closeButton]

end Builders

/-! ## Pieces of the dialogs -/

section Pieces

variable (n : Naming) (f : Field) (s t u : String)

@[simp] theorem componentsIn_submitFunction (o : Operation) :
    componentsIn (submitFunction n o s t) = [] := by
  simp [submitFunction]

@[simp] theorem componentsIn_submitButtons : componentsIn (submitButtons s t) = [] := by
  simp [submitButtons]

@[simp] theorem componentsIn_bulkSubmitFunction : componentsIn (bulkSubmitFunction n s) = [] := by
  simp [bulkSubmitFunction]

@[simp] theorem componentsIn_guardedSubmit : componentsIn (guardedSubmit s t) = [] := by
  simp [guardedSubmit]

@[simp] theorem componentsIn_bulkButtons : componentsIn (bulkButtons s t u) = [] := by
  simp [bulkButtons]

@[simp] theorem componentsIn_tickedValues : componentsIn (tickedValues n) = [] := by
  simp [tickedValues]

@[simp] theorem componentsIn_selectionNote_cons (lines : List Line) :
    componentsIn (selectionNote n s :: lines) = componentsIn lines := by
  simp [selectionNote]

/-- The cell that edits a field uses its component. -/
theorem componentsIn_bulkEditCell :
    componentsIn (bulkEditCell f) = (fieldComponent? f).toList := by
  simp [bulkEditCell, isComponentTag]

theorem componentsIn_bulkEditTable (e : Entity) : componentsIn (bulkEditTable e) =
    e.fields.flatMap fun f => (fieldComponent? f).toList := by
  simp [bulkEditTable, componentsIn_map, componentsIn_flatMap, componentsIn_bulkEditCell,
    isComponentTag]

/-- So does the input element of a ticked field. -/
theorem componentsIn_tickedInput :
    componentsIn (tickedInput f) = (fieldComponent? f).toList := by
  simp [tickedInput, isComponentTag]

/-- The choice of a field uses no component. -/
@[simp] theorem componentsIn_fieldChoice (e : Entity) : componentsIn (fieldChoice e) = [] := by
  simp [fieldChoice, componentsIn_map, isComponentTag]

end Pieces

/-! ## Declarations of the dialogs -/

section Items

variable (n : Naming) (names : List String) (o : Operation)

@[simp] theorem declaration?_reactImport : (reactImport names).declaration? = none := rfl

@[simp] theorem declaration?_storeImport : (storeImport n).declaration? = none := rfl

@[simp] theorem declaration?_operationImport : (operationImport n o).declaration? = none := rfl

@[simp] theorem declaration?_dataImport : (dataImport names).declaration? = none := rfl

@[simp] theorem filterMap_declaration?_clientDirective :
    clientDirective.filterMap Item.declaration? = [] := rfl

@[simp] theorem filterMap_declaration?_pickerImports (e : Entity) :
    (pickerImports e).filterMap Item.declaration? = [] := by
  simp [pickerImports, Item.declaration?]

@[simp] theorem declaration?_declared (d : Declaration) : (Item.declared d).declaration? = some d :=
  rfl

@[simp] theorem components_errorMessage : errorMessage.components = [] := by
  simp [errorMessage, Declaration.components, Declaration.lines, Definition.lines]

@[simp] theorem components_type (exported : Bool) (name definition : String) :
    (Declaration.type exported name definition).components = [] := rfl

@[simp] theorem components_main (name parameters : String) (body : List Line) :
    (Declaration.main name parameters body).components = componentsIn body :=
  componentsIn_block body _ _

end Items

/-! ## The dialogs -/

/-- The parts in which fields are edited. -/
def editorParts : List Part := [.add, .edit, .bulkEdit, .bulkUpdate, .bulkDynamicUpdate]

/-- The components of the fields, one for each field that has one. -/
def fieldComponents (e : Entity) : List String := e.fields.filterMap fieldComponent?

theorem flatMap_fieldComponent? (e : Entity) :
    (e.fields.flatMap fun f => (fieldComponent? f).toList) = fieldComponents e := by
  rw [fieldComponents]
  induction e.fields with
  | nil => rfl
  | cons f fs ih =>
    rw [List.flatMap_cons, ih, List.filterMap_cons]
    cases fieldComponent? f <;> rfl

/-- **The dialogs in which fields are edited use the components of the fields.** -/
theorem components_of_mem_editorParts {e : Entity} {p : Part} (hp : p ∈ editorParts) {path : Path}
    {f : File} (h : p.single? e = some (path, .source f)) : f.components = fieldComponents e := by
  rw [File.components_eq, File.declarations, File.items, ← flatMap_fieldComponent?]
  cases p with
  | add =>
    obtain rfl := source_eq rfl h
    simp [addDialog, List.filterMap_cons, addInputs, componentsIn_flatMap]
  | edit =>
    obtain rfl := source_eq rfl h
    simp [editDialog, List.filterMap_cons, editInputs, componentsIn_flatMap]
  | bulkEdit =>
    obtain rfl := source_eq rfl h
    simp [bulkEditDialog, List.filterMap_cons, componentsIn_bulkEditTable]
  | bulkUpdate =>
    obtain rfl := source_eq rfl h
    simp [bulkUpdateDialog, List.filterMap_cons, draftImports, chosenInput, componentsIn_flatMap]
  | bulkDynamicUpdate =>
    obtain rfl := source_eq rfl h
    simp [bulkDynamicUpdateDialog, List.filterMap_cons, draftImports, componentsIn_flatMap,
      componentsIn_tickedInput]
  | _ => simp [editorParts] at hp

end EntitySlice.Slice
