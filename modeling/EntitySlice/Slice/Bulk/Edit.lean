import EntitySlice.Slice.Bulk.Basic

/-!
# The dialog that edits many records row by row
-/

namespace EntitySlice.Slice

open EntitySlice.Source

/-- The statement that keeps a new value of a field in the row that is being edited. -/
def updateRow (f : Field) (value : String) : String :=
  "updateRow(index, " ++ literal f.name ++ ", " ++ value ++ ")"

/-- The cell that edits a field of a row. -/
def bulkEditCell (f : Field) : List Line :=
  element ⟨"td", [classes "min-w-[10rem] px-2 py-1 align-top"]⟩
    [leaf (inputElement f (member "row" f.name) (updateRow f)
      (.numbered (elementId "bulk-edit" f)))]

/-- The table with a row for each record. -/
def bulkEditTable (e : Entity) : List Line :=
  division "overflow-x-auto"
    (element ⟨"table", [classes "min-w-full text-sm"]⟩
      (element ⟨"thead", []⟩
          (element ⟨"tr", []⟩
            (e.fields.map fun f =>
              around ⟨"th", [classes "px-2 py-1 text-left font-medium"]⟩ (label f)))
        ++ element ⟨"tbody", []⟩
          (forEach "rows" "row, index"
            (element ⟨"tr", [attrCode "key" "row._id ?? index"]⟩
              (e.fields.flatMap bulkEditCell)))))

/-- The module of the dialog that edits many records row by row. -/
def bulkEditDialog (e : Entity) : File where
  sections :=
    [clientDirective,
     [reactImport ["useEffect", "useState"], storeImport e.naming,
      operationImport e.naming .bulkUpdate, dataImport [e.naming.interfaceName]]
      ++ pickerImports e,
     [.declared errorMessage],
     [.declared (.main "BulkEdit" "" (paragraphs
       [code
          [takeSelection e.naming, takeMutation e.naming .bulkUpdate,
           "const [rows, setRows] = useState<" ++ e.naming.interfaceName ++ "[]>(bulkData);",
           takeErrors],
        block r"useEffect(() => {" (code ["setRows(bulkData);"]) r"}, [bulkData]);",
        code ["if (!modals.bulkEdit) return null;"],
        closeFunction "bulkEdit" ["setErrors([]);"],
        Line.code ("const updateRow = (index: number, key: keyof " ++ e.naming.interfaceName
            ++ ", value: unknown) =>")
          :: nest (code
            [r"setRows(rows.map((row, i) => (i === index ? { ...row, [key]: value } : row)));"]),
        bulkSubmitFunction e.naming
          r"rows.map(({ _id, ...updateData }) => ({ id: _id as string, updateData }))",
        dialog ("Bulk Edit " ++ e.naming.plural) .wide
          (errorList ++ bulkEditTable e ++ bulkButtons "handleSubmit" "Saving..." "Save All")]))]]

end EntitySlice.Slice
