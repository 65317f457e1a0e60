import EntitySlice.Slice.Dialog

/-!
# The table of records

The component that lists records with a column for each field, lets the reader sort and select them
and opens the dialogs for one of them.
-/

namespace EntitySlice.Slice

open EntitySlice.Source

/-- What the table knows about the column of a field. -/
def columnMembers (f : Field) : List Member :=
  [.entry "key" (literal f.name), .entry "label" (literal f.title),
    .entry "render" ("(row) => " ++ shownText f "row")]

/-- The columns of the table. -/
def columnLines (e : Entity) : List Line :=
  e.fields.map fun f => Line.code (object (columnMembers f) ++ ",")

/-- The columns of the table as a constant. -/
def columns (e : Entity) : Declaration :=
  .const false "columns"
    { first := r": { key: SortKey; label: string; render: (row: " ++ e.naming.interfaceName
        ++ r") => string }[] = ["
      body := columnLines e
      last? := some "];" }

/-- The statements of the table before its markup. -/
def tableStatements (n : Naming) : List (List Line) :=
  [code
    [takeFromStore n ["bulkData", "setBulkData", "setSelectedItem", "toggleModal"],
     "const [sortKey, setSortKey] = useState<SortKey | null>(null);",
     "const [sortAsc, setSortAsc] = useState(true);"],
   block r"const sorted = useMemo(() => {"
     (code ["if (!sortKey) return items;"]
      ++ block r"return [...items].sort((a, b) => {"
        (code
          ["const left = String(a[sortKey] ?? '');",
           "const right = String(b[sortKey] ?? '');",
           r"const order = left.localeCompare(right, undefined, { numeric: true });",
           "return sortAsc ? order : -order;"])
        r"});")
     r"}, [items, sortKey, sortAsc]);",
   code
    ["const isSelected = (row: " ++ n.interfaceName
       ++ ") => bulkData.some((b) => b._id === row._id);",
     "const allSelected = items.length > 0 && items.every(isSelected);"],
   Line.code ("const toggleRow = (row: " ++ n.interfaceName ++ ") =>")
    :: nest (code ["setBulkData(isSelected(row) ? "
      ++ "bulkData.filter((b) => b._id !== row._id) : [...bulkData, row]);"]),
   code ["const toggleAll = () => setBulkData(allSelected ? [] : items);"],
   block r"const handleSort = (key: SortKey) => {"
     (block r"if (sortKey === key) {" (code ["setSortAsc(!sortAsc);"]) r"} else {"
      ++ nest (code ["setSortKey(key);", "setSortAsc(true);"]) ++ code [r"}"])
     r"};",
   block ("const open = (row: " ++ n.interfaceName ++ r", modal: 'view' | 'edit' | 'delete') => {")
     (code ["setSelectedItem(row);", "toggleModal(modal, true);"]) r"};",
   block r"if (items.length === 0) {"
     (code ["return "
       ++ (paragraph "py-8 text-center text-sm text-gray-500"
         ("No " ++ n.pluralLower ++ " found.")).content.text ++ ";"])
     r"}"]

/-- A checkbox of the table. -/
def tableCheckbox (checked change : String) : Line :=
  leaf ⟨"input", [attr "type" "checkbox", attrCode "checked" checked, onChange change]⟩

/-- The row above the records. -/
def tableHead : List Line :=
  element ⟨"thead", [classes "bg-gray-50"]⟩
    (element ⟨"tr", []⟩
      (element ⟨"th", [classes "px-3 py-2"]⟩ [tableCheckbox "allSelected" "toggleAll"]
        ++ forEach "columns" "col"
          (element ⟨"th", [attrCode "key" "String(col.key)",
              classes "cursor-pointer px-3 py-2 text-left font-medium",
              onClick "() => handleSort(col.key)"]⟩
            (code [r"{col.label}",
              r"{sortKey === col.key ? (sortAsc ? ' \u25B2' : ' \u25BC') : ''}"]))
        ++ [around ⟨"th", [classes "px-3 py-2 text-right font-medium"]⟩ "Actions"]))

/-- The button that opens a dialog for the record of a row. -/
def rowButton (style modal text : String) : Line :=
  button style [onClick ("() => open(row, '" ++ modal ++ "')")] text

/-- The rows with the records. -/
def tableBody : List Line :=
  element ⟨"tbody", [classes "divide-y divide-gray-100"]⟩
    (forEach "sorted" "row"
      (element ⟨"tr", [attrCode "key" "row._id", classes "hover:bg-gray-50"]⟩
        (element ⟨"td", [classes "px-3 py-2"]⟩
            [tableCheckbox "isSelected(row)" "() => toggleRow(row)"]
          ++ forEach "columns" "col"
            (element ⟨"td", [attrCode "key" "String(col.key)",
                classes "max-w-xs truncate px-3 py-2"]⟩
              (code [r"{col.render(row)}"]))
          ++ element ⟨"td", [classes "whitespace-nowrap px-3 py-2 text-right"]⟩
            [rowButton "mr-2 text-blue-600" "view" "View",
             rowButton "mr-2 text-amber-600" "edit" "Edit",
             rowButton "text-red-600" "delete" "Delete"])))

/-- The look of a table. -/
def tableElement : Element := ⟨"table", [classes "min-w-full divide-y divide-gray-200 text-sm"]⟩

/-- The markup of the table. -/
def tableMarkup : List Line :=
  block "return ("
    (division "overflow-x-auto rounded border border-gray-200"
      (element tableElement (tableHead ++ tableBody)))
    ");"

/-- The module of the table of records. -/
def tableView (e : Entity) : File where
  sections :=
    [clientDirective,
     [reactImport ["useMemo", "useState"], storeImport e.naming,
      dataImport [e.naming.interfaceName]],
     [.declared (.type false "SortKey" ("keyof " ++ e.naming.interfaceName))],
     [.declared (columns e)],
     [.declared (.main "TableView" (r"{ items }: { items: " ++ e.naming.interfaceName ++ r"[] }")
       (paragraphs (tableStatements e.naming ++ [tableMarkup])))]]

end EntitySlice.Slice
