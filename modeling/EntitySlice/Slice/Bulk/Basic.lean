import EntitySlice.Slice.Dialog

/-!
# Dialogs for many records

What the dialogs share that work on all selected records at once.
-/

namespace EntitySlice.Slice

open EntitySlice.Source

/-- The members of the state that the dialogs for many records take. -/
def takeSelection (n : Naming) : String :=
  takeFromStore n ["modals", "bulkData", "setBulkData", "toggleModal"]

/-- The function that sends the changes of many records. -/
def bulkSubmitFunction (n : Naming) (updates : String) : List Line :=
  asyncFunction "handleSubmit"
    (tryBlock [awaitMutation n .bulkUpdate updates, "setBulkData([]);", "close();"]
      ("Failed to update " ++ n.pluralLower))

/-- The condition under which there is nothing to send. -/
def nothingSelected : String := "isLoading || bulkData.length === 0"

/-- The buttons of a dialog that changes many records. -/
def bulkButtons (action busy idle : String) : List Line :=
  buttonRow
    (closeButton "Cancel"
      :: busyButton primaryStyle [attrCode "disabled" nothingSelected, onClick action] busy idle)

/-- The function that sends the changes unless there is nothing to change. -/
def guardedSubmit (condition complaint : String) : List Line :=
  asyncFunction "submit"
    (block ("if (" ++ condition ++ r") {")
        (code ["setErrors([" ++ literal complaint ++ "]);", "return;"]) r"}"
      ++ code ["await handleSubmit();"])

/-- The imports of a dialog that sets the same values on many records. -/
def draftImports (e : Entity) : List Item :=
  [reactImport ["useState"], storeImport e.naming, operationImport e.naming .bulkUpdate,
    dataImport [e.naming.interfaceName, e.naming.defaultConst]] ++ pickerImports e

/-- The statement that begins with the values of a new record. -/
def takeDraft (n : Naming) : String :=
  "const [draft, setDraft] = useState<" ++ n.interfaceName ++ ">(" ++ n.defaultConst ++ "());"

/-- The statement that goes back to the values of a new record. -/
def resetDraft (n : Naming) : String := "setDraft(" ++ n.defaultConst ++ "());"

/-- The note how many records are selected. -/
def selectionNote (n : Naming) (more : String) : Line :=
  paragraph "mb-4 text-sm" (r"{bulkData.length} " ++ n.pluralLower ++ " selected." ++ more)

end EntitySlice.Slice
