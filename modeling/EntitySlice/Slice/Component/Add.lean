import EntitySlice.Slice.Dialog

/-!
# The dialog for a new record
-/

namespace EntitySlice.Slice

open EntitySlice.Source

/-- The function that checks a record and sends it with an operation. -/
def submitFunction (n : Naming) (o : Operation) (item argument : String) : List Line :=
  asyncFunction "handleSubmit"
    (code ["const found = " ++ n.validateFn ++ "(" ++ item ++ ");"]
      ++ block r"if (found.length > 0) {" (code ["setErrors(found);", "return;"]) r"}"
      ++ tryBlock [awaitMutation n o argument, "close();"]
        ("Failed to " ++ o.verb ++ " " ++ n.singularLower))

/-- The buttons of a dialog that sends a record. -/
def submitButtons (busy idle : String) : List Line :=
  buttonRow
    (closeButton "Cancel"
      :: busyButton primaryStyle [attrCode "disabled" "isLoading", onClick "handleSubmit"]
        busy idle)

/-- The input elements for a new record. -/
def addInputs (e : Entity) : List Line :=
  e.fields.flatMap (fieldInput "newItem" "setNewItem" "add")

/-- The module of the dialog for a new record. -/
def addDialog (e : Entity) : File where
  sections :=
    [clientDirective,
     [reactImport ["useState"], storeImport e.naming, operationImport e.naming .add,
      dataImport [e.naming.validateFn]] ++ pickerImports e,
     [.declared errorMessage],
     [.declared (.main "Add" "" (paragraphs
       [code
          [takeFromStore e.naming
             ["modals", "newItem", "setNewItem", "resetNewItem", "toggleModal"],
           takeMutation e.naming .add, takeErrors],
        code ["if (!modals.add) return null;"],
        closeFunction "add" ["setErrors([]);", "resetNewItem();"],
        submitFunction e.naming .add "newItem" "newItem",
        dialog ("Add " ++ e.naming.singular) .narrow
          (errorList ++ addInputs e ++ submitButtons "Saving..." "Save")]))]]

end EntitySlice.Slice
