import EntitySlice.Slice.Dialog

/-!
# The page

The module of the page itself: the list of records, the search, the buttons that open the dialogs,
and the dialogs.
-/

namespace EntitySlice.Slice

open EntitySlice.Source

/-- The components of the page, in the order in which they are imported. -/
def pageComponents : List String :=
  ["Add", "Edit", "View", "Delete", "BulkEdit", "BulkUpdate", "BulkDynamicUpdate", "BulkDelete",
    "FilterDialog", "Export", "Summary", "TableView"]

/-- The component that shows the records of the list. -/
def tableComponent : String := "TableView"

/-- The component that needs the records of the list. -/
def exportComponent : String := "Export"

/-- The import of a component of the page. -/
def componentImport (component : String) : Import :=
  .byDefault component ("./components/" ++ component)

/-- A component of the page that stands at its end. -/
def mountedComponent (component : String) : Line :=
  leaf ⟨component, if component = exportComponent then [attrCode "items" "items"] else []⟩

/-- What the button that opens a dialog does. -/
def opens (modal : String) : Attribute := onClick ("() => toggleModal('" ++ modal ++ "', true)")

/-- A button that opens a dialog for the selected records. -/
def selectionButton (modal text : String) : Line :=
  button secondaryStyle [attrCode "disabled" "!hasSelection", opens modal] text

/-- The title of the page and the buttons that open the dialogs. -/
def pageHeader (n : Naming) : List Line :=
  division "mb-4 flex flex-wrap items-center justify-between gap-2"
    (around ⟨"h1", [classes "text-2xl font-semibold"]⟩ n.plural
      :: division "flex flex-wrap gap-2"
        [button primaryStyle [opens "add"] ("Add " ++ n.singular),
         button secondaryStyle [opens "filter"] "Filter",
         button secondaryStyle [opens "summary"] "Summary",
         button secondaryStyle [opens "export"] "Export",
         selectionButton "bulkEdit" "Bulk Edit",
         selectionButton "bulkUpdate" "Bulk Update",
         selectionButton "bulkDynamicUpdate" "Bulk Dynamic Update",
         selectionButton "bulkDelete" "Bulk Delete"])

/-- The search and the length of a page. -/
def pageControls (n : Naming) : List Line :=
  division "mb-4 flex items-center gap-2"
    (leaf ⟨"input", [classes inputStyle, attr "placeholder" ("Search " ++ n.pluralLower ++ "..."),
        attrCode "value" "search", onChange "(e) => setSearch(e.target.value)"]⟩
      :: element ⟨"select", [classes "rounded border border-gray-300 px-2 py-2 text-sm",
          attrCode "value" "queryPramsLimit",
          onChange "(e) => setQueryPramsLimit(Number(e.target.value))"]⟩
        (forEach "[10, 25, 50, 100]" "n"
          [around ⟨"option", [attrCode "key" "n", attrCode "value" "n"]⟩ r"{n} / page"]))

/-- The list, or what is to be said in its place. -/
def pageList (n : Naming) : List Line :=
  [paragraphIf "isLoading" waitStyle "Loading...",
   paragraphIf "isError" alertStyle ("Failed to load " ++ n.pluralLower ++ "."),
   Line.code (braced ("!isLoading && !isError && "
     ++ Element.emptyTag ⟨tableComponent, [attrCode "items" "items"]⟩))]

/-- A button that turns the page. -/
def turnButton (limit next text : String) : Line :=
  button secondaryStyle
    [attrCode "disabled" ("queryPramsPage " ++ limit),
      onClick ("() => setQueryPramsPage(queryPramsPage " ++ next ++ ")")] text

/-- The number of records and the buttons that turn the page. -/
def pageFooter : List Line :=
  division "mt-4 flex items-center justify-between text-sm"
    (around ⟨"span", []⟩ r"Total: {total}"
      :: division "flex items-center gap-2"
        [turnButton "<= 1" "- 1" "Previous",
         around ⟨"span", []⟩ r"Page {queryPramsPage} of {totalPages}",
         turnButton ">= totalPages" "+ 1" "Next"])

/-- The expression for the records of the list in the answer of the server. -/
def rowsExpression (n : Naming) : String := "data?.data?." ++ n.pluralCamel ++ " ?? []"

/-- The statements of the page before its markup. -/
def pageStatements (n : Naming) : List (List Line) :=
  [block r"const {"
      (code ["queryPramsLimit,", "queryPramsPage,", "queryPramsQ,", "dateRange,", "bulkData,",
        "setQueryPramsLimit,", "setQueryPramsPage,", "setQueryPramsQ,", "toggleModal,"])
      (r"} = " ++ n.storeHook ++ "();")
    ++ code ["const [search, setSearch] = useState(queryPramsQ);"],
   block r"useEffect(() => {"
      (code ["const timer = setTimeout(() => setQueryPramsQ(search), 300);",
        "return () => clearTimeout(timer);"])
      r"}, [search, setQueryPramsQ]);",
   block (r"const { data, isLoading, isError } = " ++ n.hook .list ++ r"({")
      (code ["page: queryPramsPage,", "limit: queryPramsLimit,", "q: queryPramsQ,",
        "startDate: dateRange.start,", "endDate: dateRange.end,"])
      r"});",
   code
     ["const items: " ++ n.interfaceName ++ "[] = " ++ rowsExpression n ++ ";",
      "const total: number = data?.data?.total ?? 0;",
      "const totalPages = Math.max(Math.ceil(total / queryPramsLimit), 1);",
      "const hasSelection = bulkData.length > 0;"]]

/-- The markup of the page. -/
def pageMarkup (n : Naming) : List Line :=
  block "return ("
    (element ⟨"main", [classes "container mx-auto p-4"]⟩
      (paragraphs
        [pageHeader n, pageControls n, pageList n, pageFooter,
         (pageComponents.filter (· ≠ tableComponent)).map mountedComponent]))
    ");"

/-- The module of the page. -/
def listPage (e : Entity) : File where
  sections :=
    [clientDirective,
     [.comment ("Auto-generated list page for " ++ e.naming.plural),
      reactImport ["useEffect", "useState"],
      .imported (.named [e.naming.hook .list] "./redux/rtk-api"),
      .imported (.named [e.naming.storeHook] "./store/store"),
      .imported (.named [e.naming.interfaceName] "./store/data/data")]
      ++ pageComponents.map (fun c => .imported (componentImport c)),
     [.declared (.main (e.naming.plural ++ "Page") ""
       (paragraphs (pageStatements e.naming ++ [pageMarkup e.naming])))]]

end EntitySlice.Slice
