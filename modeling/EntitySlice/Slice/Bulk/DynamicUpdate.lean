import EntitySlice.Slice.Bulk.Basic

/-!
# The dialog that sets any fields of many records
-/

namespace EntitySlice.Slice

open EntitySlice.Source

/-- The checkbox for a field, and the input element that is there while it is ticked. -/
def tickedInput (f : Field) : List Line :=
  let key := literal f.name
  division "mb-2 rounded border border-gray-200 p-3"
    (element ⟨"label", [classes "flex items-center gap-2 text-sm font-medium"]⟩
        [leaf ⟨"input", [attr "type" "checkbox",
          attrCode "checked" ("Boolean(enabled[" ++ key ++ "])"),
          onChange ("() => toggleField(" ++ key ++ ")")]⟩,
         Line.code (label f)]
      ++ onlyIf ("enabled[" ++ key ++ "]")
        (division "mt-2"
          [leaf (inputElement f (member "draft" f.name) (storeField "setDraft" "draft" f)
            (.text (elementId "bulk-dynamic" f)))]))

/-- The function that gives the values of the ticked fields. -/
def tickedValues (n : Naming) : List Line :=
  Line.code ("const updateData = (): Partial<" ++ n.interfaceName ++ "> =>")
    :: nest (block "Object.fromEntries("
      (Line.code "Object.entries(enabled)"
        :: nest (code [".filter(([, on]) => on)",
          ".map(([key]) => [key, draft[key as keyof " ++ n.interfaceName ++ "]])"]))
      ");")

/-- The module of the dialog that sets any fields of many records. -/
def bulkDynamicUpdateDialog (e : Entity) : File where
  sections :=
    [clientDirective, draftImports e, [.declared errorMessage],
     [.declared (.type false "Enabled"
       ("Partial<Record<keyof " ++ e.naming.interfaceName ++ ", boolean>>"))],
     [.declared (.main "BulkDynamicUpdate" "" (paragraphs
       [code
          [takeSelection e.naming, takeMutation e.naming .bulkUpdate,
           r"const [enabled, setEnabled] = useState<Enabled>({});",
           takeDraft e.naming, takeErrors],
        code ["if (!modals.bulkDynamicUpdate) return null;"],
        closeFunction "bulkDynamicUpdate"
          ["setErrors([]);", r"setEnabled({});", resetDraft e.naming],
        code
          ["const toggleField = (key: keyof " ++ e.naming.interfaceName
            ++ r") => setEnabled({ ...enabled, [key]: !enabled[key] });"],
        tickedValues e.naming,
        guardedSubmit "Object.keys(updateData()).length === 0"
          "Tick at least one field to update",
        bulkSubmitFunction e.naming
          (r"bulkData.map((item) => "
            ++ r"({ id: item._id as string, updateData: updateData() }))"),
        dialog ("Bulk Dynamic Update " ++ e.naming.plural) .wide
          (errorList ++ [selectionNote e.naming " Tick the fields to change."]
            ++ e.fields.flatMap tickedInput
            ++ bulkButtons "submit" "Updating..." "Update Selected")]))]]

end EntitySlice.Slice
