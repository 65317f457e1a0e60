import EntitySlice.Slice.Dialog

/-!
# The dialog that asks before a record is deleted
-/

namespace EntitySlice.Slice

open EntitySlice.Source

/-- The function that deletes with an operation. -/
def deleteFunction (n : Naming) (o : Operation) (argument : String) (after : List String)
    (what : String) : List Line :=
  asyncFunction "handleDelete"
    (tryBlock (awaitMutation n o argument :: after) ("Failed to delete " ++ what))

/-- The buttons of a dialog that deletes. -/
def deleteButtons (disabled idle : String) : List Line :=
  buttonRow
    (closeButton "Cancel"
      :: busyButton dangerStyle [attrCode "disabled" disabled, onClick "handleDelete"]
        "Deleting..." idle)

/-- The module of the dialog that asks before a record is deleted. -/
def deleteDialog (e : Entity) : File where
  sections :=
    [clientDirective,
     [reactImport ["useState"], storeImport e.naming, operationImport e.naming .delete],
     [.declared errorMessage],
     [.declared (.main "Delete" "" (paragraphs
       [code
          [takeFromStore e.naming ["modals", "selectedItem", "setSelectedItem", "toggleModal"],
           takeMutation e.naming .delete, takeErrors],
        code ["if (!modals.delete || !selectedItem) return null;"],
        closeFunction "delete" ["setErrors([]);", "setSelectedItem(null);"],
        deleteFunction e.naming .delete r"{ id: selectedItem._id as string }" ["close();"]
          e.naming.singularLower,
        dialog ("Delete " ++ e.naming.singular) .narrow
          (errorList
            ++ [paragraph "mb-4 text-sm" ("Are you sure you want to delete this "
                ++ e.naming.singularLower ++ "? This action cannot be undone.")]
            ++ deleteButtons "isLoading" "Delete")]))]]

end EntitySlice.Slice
