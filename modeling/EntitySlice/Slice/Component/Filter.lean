import EntitySlice.Slice.Dialog

/-!
# The dialog that narrows the list to a span of time
-/

namespace EntitySlice.Slice

open EntitySlice.Source

/-- The labelled input element for one end of the span. -/
def dateInput (id text value setter : String) : List Line :=
  division "mb-4"
    [around (labelElement id) text,
     leaf ⟨"input", [attr "id" id, attr "type" "date", classes inputStyle, attrCode "value" value,
       onChange ("(e) => " ++ setter ++ "(e.target.value)")]⟩]

/-- A function that sets the span and closes the dialog. -/
def spanFunction (name span : String) : List Line :=
  block ("const " ++ name ++ r" = () => {")
    (code ["setDateRange(" ++ span ++ ");", "close();"]) r"};"

/-- The module of the dialog that narrows the list to a span of time. -/
def filterDialog (e : Entity) : File where
  sections :=
    [clientDirective,
     [reactImport ["useEffect", "useState"], storeImport e.naming],
     [.declared (.main "FilterDialog" "" (paragraphs
       [code
          [takeFromStore e.naming ["modals", "dateRange", "setDateRange", "toggleModal"],
           "const [start, setStart] = useState(dateRange.start);",
           "const [end, setEnd] = useState(dateRange.end);"],
        block r"useEffect(() => {"
          (code ["setStart(dateRange.start);", "setEnd(dateRange.end);"]) r"}, [dateRange]);",
        code ["if (!modals.filter) return null;"],
        code
          [plainCloseFunction "filter", "const invalid = Boolean(start && end && start > end);"],
        spanFunction "apply" r"{ start, end }",
        spanFunction "reset" r"{ start: '', end: '' }",
        dialog ("Filter " ++ e.naming.plural) .narrow
          (dateInput "filter-start" "Created from" "start" "setStart"
            ++ dateInput "filter-end" "Created to" "end" "setEnd"
            ++ [paragraphIf "invalid" ("mb-4 " ++ alertStyle)
              "Start date must be before end date."]
            ++ buttonRow
              [button secondaryStyle [onClick "reset"] "Reset",
               button primaryStyle [attrCode "disabled" "invalid", onClick "apply"] "Apply"])]))]]

end EntitySlice.Slice
