import EntitySlice.Slice.Bulk.Basic

/-!
# The dialog that sets one field of many records
-/

namespace EntitySlice.Slice

open EntitySlice.Source

/-- The id of the element that chooses the field. -/
def fieldChoiceId : String := "bulk-update-field"

/-- The element that chooses the field. -/
def fieldChoice (e : Entity) : List Line :=
  division "mb-4"
    (around (labelElement fieldChoiceId) "Field"
      :: element ⟨"select", [attr "id" fieldChoiceId, classes inputStyle,
          attrCode "value" "field",
          onChange ("(e) => setField(e.target.value as keyof " ++ e.naming.interfaceName ++ ")")]⟩
        (around ⟨"option", [attr "value" ""]⟩ "Select a field"
          :: e.fields.map fun f =>
            around ⟨"option", [attrCode "value" (literal f.name)]⟩ (label f)))

/-- The input elements, of which the one for the chosen field is there. -/
def chosenInput (e : Entity) : List Line :=
  e.fields.flatMap fun f =>
    onlyIf ("field === " ++ literal f.name) (fieldInput "draft" "setDraft" "bulk-update" f)

/-- The module of the dialog that sets one field of many records. -/
def bulkUpdateDialog (e : Entity) : File where
  sections :=
    [clientDirective, draftImports e, [.declared errorMessage],
     [.declared (.main "BulkUpdate" "" (paragraphs
       [code
          [takeSelection e.naming, takeMutation e.naming .bulkUpdate,
           "const [field, setField] = useState<keyof " ++ e.naming.interfaceName ++ " | ''>('');",
           takeDraft e.naming, takeErrors],
        code ["if (!modals.bulkUpdate) return null;"],
        closeFunction "bulkUpdate" ["setErrors([]);", "setField('');", resetDraft e.naming],
        guardedSubmit "!field" "Choose a field to update",
        bulkSubmitFunction e.naming
          (r"bulkData.map((item) => ({ id: item._id as string, "
            ++ r"updateData: { [field]: draft[field as keyof typeof draft] } }))"),
        dialog ("Bulk Update " ++ e.naming.plural) .narrow
          (errorList ++ [selectionNote e.naming ""] ++ fieldChoice e ++ chosenInput e
            ++ bulkButtons "submit" "Updating..." "Update Selected")]))]]

end EntitySlice.Slice
