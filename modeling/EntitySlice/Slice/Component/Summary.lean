import EntitySlice.Slice.Component.Table
import EntitySlice.Slice.Server.Controller

/-!
# The dialog with the sums by month
-/

namespace EntitySlice.Slice

open EntitySlice.Source

/-- A cell of the row above the sums. -/
def summaryHeading (f : Field) : Line :=
  around ⟨"th", [classes "px-3 py-2 text-right"]⟩ (label f ++ " Total")

/-- A cell with the sum over a field. -/
def summaryCell (f : Field) : Line :=
  around ⟨"td", [classes "px-3 py-2 text-right"]⟩
    (r"{String(row[" ++ literal (totalName f) ++ r"] ?? 0)}")

/-- The table with the sums. -/
def summaryTable (e : Entity) : List Line :=
  element tableElement
    (element ⟨"thead", [classes "bg-gray-50"]⟩
        (element ⟨"tr", []⟩
          ([around ⟨"th", [classes "px-3 py-2 text-left"]⟩ "Month",
            around ⟨"th", [classes "px-3 py-2 text-right"]⟩ "Count"]
            ++ e.numeric.map summaryHeading))
      ++ element ⟨"tbody", [classes "divide-y divide-gray-100"]⟩
        (forEach "monthly" "row"
          (element ⟨"tr", [attrCode "key" r"`${row._id.year}-${row._id.month}`"]⟩
            ([around ⟨"td", [classes "px-3 py-2"]⟩ r"{monthLabel(row)}",
              around ⟨"td", [classes "px-3 py-2 text-right"]⟩ r"{row.count}"]
              ++ e.numeric.map summaryCell))))

/-- The module of the dialog with the sums by month. -/
def summaryDialog (e : Entity) : File where
  sections :=
    [clientDirective,
     [storeImport e.naming, operationImport e.naming .summary],
     [.declared (.interface false "MonthlyRow"
       [propertyLine "_id" r"{ year: number; month: number }", propertyLine "count" "number",
        propertyLine "[total: string]" "unknown"])],
     [.declared (.const false "monthLabel"
       { first := " = (row: MonthlyRow) =>"
         body := code [r"new Date(row._id.year, row._id.month - 1).toLocaleString(undefined, "
           ++ r"{ month: 'short', year: 'numeric' });"] })],
     [.declared (.main "Summary" "" (paragraphs
       [code [takeFromStore e.naming ["modals", "dateRange", "toggleModal"]]
          ++ block (r"const { data, isLoading, isError } = " ++ e.naming.hook .summary ++ "(")
            (code [r"{ startDate: dateRange.start, endDate: dateRange.end },",
              r"{ skip: !modals.summary }"])
            ");",
        code ["if (!modals.summary) return null;"],
        code
          [plainCloseFunction "summary",
           "const monthly: MonthlyRow[] = data?.data?.monthly ?? [];",
           "const totalCount: number = data?.data?.totalCount ?? 0;"],
        dialog (e.naming.plural ++ " Summary") .wide
          ([paragraphIf "isLoading" waitStyle "Loading...",
            paragraphIf "isError" alertStyle "Failed to load summary.",
            paragraph "mb-4 text-sm" ("Total " ++ e.naming.pluralLower ++ r": {totalCount}")]
            ++ summaryTable e ++ closeRow)]))]]

end EntitySlice.Slice
