import EntitySlice.Slice.Component.Add

/-!
# The dialog for a change of a record
-/

namespace EntitySlice.Slice

open EntitySlice.Source

/-- What the dialog hands to the update operation. -/
def editArgument : List Member := [.spread "item", .entry "id" "item._id as string"]

/-- The input elements for a change of a record. -/
def editInputs (e : Entity) : List Line :=
  e.fields.flatMap (fieldInput "item" "setItem" "edit")

/-- The module of the dialog for a change of a record. -/
def editDialog (e : Entity) : File where
  sections :=
    [clientDirective,
     [reactImport ["useEffect", "useState"], storeImport e.naming,
      operationImport e.naming .update,
      dataImport [e.naming.interfaceName, e.naming.validateFn]] ++ pickerImports e,
     [.declared errorMessage],
     [.declared (.main "Edit" "" (paragraphs
       [code
          [takeFromStore e.naming ["modals", "selectedItem", "setSelectedItem", "toggleModal"],
           takeMutation e.naming .update,
           "const [item, setItem] = useState<" ++ e.naming.interfaceName
             ++ " | null>(selectedItem);",
           takeErrors],
        block r"useEffect(() => {" (code ["setItem(selectedItem);"]) r"}, [selectedItem]);",
        code ["if (!modals.edit || !item) return null;"],
        closeFunction "edit" ["setErrors([]);", "setSelectedItem(null);"],
        submitFunction e.naming .update "item" (object editArgument),
        dialog ("Edit " ++ e.naming.singular) .narrow
          (errorList ++ editInputs e ++ submitButtons "Updating..." "Update")]))]]

end EntitySlice.Slice
