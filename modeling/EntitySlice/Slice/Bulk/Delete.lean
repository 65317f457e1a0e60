import EntitySlice.Slice.Bulk.Basic
import EntitySlice.Slice.Component.Delete

/-!
# The dialog that asks before many records are deleted
-/

namespace EntitySlice.Slice

open EntitySlice.Source

/-- The list of the records to delete, each shown by its first field. -/
def deletionList (e : Entity) : List Line :=
  match e.fields with
  | [] => []
  | f :: _ =>
    element
      ⟨"ul", [classes "mb-4 max-h-40 list-disc overflow-y-auto pl-6 text-sm text-gray-600"]⟩
      (forEach "bulkData" "item"
        [around ⟨"li", [attrCode "key" "item._id"]⟩ (braced (shownText f "item"))])

/-- The module of the dialog that asks before many records are deleted. -/
def bulkDeleteDialog (e : Entity) : File where
  sections :=
    [clientDirective,
     [reactImport ["useState"], storeImport e.naming, operationImport e.naming .bulkDelete],
     [.declared errorMessage],
     [.declared (.main "BulkDelete" "" (paragraphs
       [code
          [takeSelection e.naming, takeMutation e.naming .bulkDelete, takeErrors],
        code ["if (!modals.bulkDelete) return null;"],
        closeFunction "bulkDelete" ["setErrors([]);"],
        deleteFunction e.naming .bulkDelete "bulkData.map((item) => item._id as string)"
          ["setBulkData([]);", "close();"] e.naming.pluralLower,
        dialog ("Delete " ++ e.naming.plural) .narrow
          (errorList
            ++ [paragraph "mb-2 text-sm" (r"Delete {bulkData.length} selected "
                ++ e.naming.pluralLower ++ "? This action cannot be undone.")]
            ++ deletionList e ++ deleteButtons nothingSelected "Delete All")]))]]

end EntitySlice.Slice
