import EntitySlice.Slice.Form

/-!
# The state of the page

The module with the state that the components of the page share: what the list shows, which dialogs
are open, and which records are worked on.
-/

namespace EntitySlice.Slice

open EntitySlice.Source

/-- The dialogs of a page. -/
def modals : List String :=
  ["add", "edit", "view", "delete", "bulkEdit", "bulkUpdate", "bulkDynamicUpdate", "bulkDelete",
    "filter", "export", "summary"]

/-- The type of the names of dialogs. -/
def modalName : Declaration :=
  .type true "ModalName" (" | ".intercalate (modals.map literal))

/-- The type of a span of time. -/
def dateRange : Declaration :=
  .interface true "DateRange" [propertyLine "start" "string", propertyLine "end" "string"]

/-- The interface of the state. -/
def storeInterface (n : Naming) : Declaration :=
  .interface true n.storeInterface
    [propertyLine "queryPramsLimit" "number",
     propertyLine "queryPramsPage" "number",
     propertyLine "queryPramsQ" "string",
     propertyLine "dateRange" "DateRange",
     propertyLine "modals" "Record<ModalName, boolean>",
     propertyLine "newItem" n.interfaceName,
     propertyLine "selectedItem" (n.interfaceName ++ " | null"),
     propertyLine "bulkData" (n.interfaceName ++ "[]"),
     propertyLine "setQueryPramsLimit" "(limit: number) => void",
     propertyLine "setQueryPramsPage" "(page: number) => void",
     propertyLine "setQueryPramsQ" "(q: string) => void",
     propertyLine "setDateRange" "(range: DateRange) => void",
     propertyLine "toggleModal" "(name: ModalName, open: boolean) => void",
     propertyLine "setNewItem" ("(item: " ++ n.interfaceName ++ ") => void"),
     propertyLine "resetNewItem" "() => void",
     propertyLine "setSelectedItem" ("(item: " ++ n.interfaceName ++ " | null) => void"),
     propertyLine "setBulkData" ("(items: " ++ n.interfaceName ++ "[]) => void")]

/-- The function that gives the state in which no dialog is open. -/
def closedModals : Declaration :=
  .const false "closedModals"
    { first := r" = (): Record<ModalName, boolean> => ({"
      body := modals.map fun m => memberLine (.entry m "false")
      last? := some r"});" }

/-- A function of the state that puts values into it. -/
def setter (name parameters : String) (members : List Member) : Line :=
  memberLine (.entry name ("(" ++ parameters ++ ") => set(" ++ object members ++ ")"))

/-- The hook for the state. -/
def storeHook (n : Naming) : Declaration :=
  let onFirstPage : Member := .entry "queryPramsPage" "1"
  .const true n.storeHook
    { first := " = create<" ++ n.storeInterface ++ r">((set) => ({"
      body :=
        [memberLine (.entry "queryPramsLimit" "10"),
         memberLine onFirstPage,
         memberLine (.entry "queryPramsQ" "''"),
         memberLine (.entry "dateRange" (object [.entry "start" "''", .entry "end" "''"])),
         memberLine (.entry "modals" "closedModals()"),
         memberLine (.entry "newItem" (n.defaultConst ++ "()")),
         memberLine (.entry "selectedItem" "null"),
         memberLine (.entry "bulkData" "[]"),
         setter "setQueryPramsLimit" "limit" [.entry "queryPramsLimit" "limit", onFirstPage],
         setter "setQueryPramsPage" "page" [.entry "queryPramsPage" "page"],
         setter "setQueryPramsQ" "q" [.entry "queryPramsQ" "q", onFirstPage],
         setter "setDateRange" "range" [.entry "dateRange" "range", onFirstPage],
         Line.code (r"toggleModal: (name, open) => "
           ++ r"set((state) => ({ modals: { ...state.modals, [name]: open } })),"),
         setter "setNewItem" "item" [.entry "newItem" "item"],
         setter "resetNewItem" "" [.entry "newItem" (n.defaultConst ++ "()")],
         setter "setSelectedItem" "item" [.entry "selectedItem" "item"],
         setter "setBulkData" "items" [.entry "bulkData" "items"]]
      last? := some r"}));" }

/-- The module of the state of the page. -/
def uiStore (e : Entity) : File where
  sections :=
    [[.comment ("Auto-generated UI store for " ++ e.naming.plural),
      .imported (.named ["create"] "zustand"),
      .imported (.named [e.naming.interfaceName, e.naming.defaultConst] "./data/data")],
     [.declared modalName], [.declared dateRange], [.declared (storeInterface e.naming)],
     [.declared closedModals], [.declared (storeHook e.naming)]]

end EntitySlice.Slice
