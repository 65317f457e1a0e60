import EntitySlice.Slice.Dialog

/-!
# The dialog that saves the records as a file
-/

namespace EntitySlice.Slice

open EntitySlice.Source

/-- What the table of headers knows about a field. -/
def headerMembers (f : Field) : List Member :=
  [.entry "key" (literal f.name), .entry "label" (literal f.title)]

/-- The headers of the columns of the file. -/
def headerLines (e : Entity) : List Line :=
  e.fields.map fun f => Line.code (object (headerMembers f) ++ ",")

/-- The headers of the columns of the file as a constant. -/
def headers (e : Entity) : Declaration :=
  .const false "headers"
    { first := r": { key: keyof " ++ e.naming.interfaceName ++ r"; label: string }[] = ["
      body := headerLines e
      last? := some "];" }

/-- The function that writes a cell of the file. -/
def csvCell : Declaration :=
  .const false "csvCell"
    { first := r" = (value: unknown) => {"
      body := code
        ["const text = Array.isArray(value) ? value.join('; ') : value instanceof Object ? "
           ++ "JSON.stringify(value) : String(value ?? '');",
         r#"return /[",\n]/.test(text) ? `"${text.replace(/"/g, '""')}"` : text;"#]
      last? := some r"};" }

/-- The function that writes the file. -/
def toCsv (n : Naming) : Declaration :=
  .const false "toCsv"
    { first := " = (rows: " ++ n.interfaceName ++ "[]) =>"
      body := code
        ["[headers.map((h) => csvCell(h.label)).join(','), "
          ++ "...rows.map((row) => headers.map((h) => csvCell(row[h.key])).join(','))]"
          ++ r".join('\n');"]
    }

/-- The function that hands a file to the reader. -/
def download : Declaration :=
  .const false "download"
    { first := r" = (content: string, type: string, filename: string) => {"
      body := code
        [r"const url = URL.createObjectURL(new Blob([content], { type }));",
         "const link = document.createElement('a');",
         "link.href = url;",
         "link.download = filename;",
         "link.click();",
         "URL.revokeObjectURL(url);"]
      last? := some r"};" }

/-- The choice of a format. -/
def formatChoice (format text : String) : List Line :=
  let input : Element :=
    ⟨"input", [attr "type" "radio", attrCode "checked" ("format === '" ++ format ++ "'"),
      onChange ("() => setFormat('" ++ format ++ "')")]⟩
  element ⟨"label", [classes "flex items-center gap-2"]⟩
    [Line.code (input.emptyTag ++ " " ++ text)]

/-- The function that saves the file in the chosen format. -/
def exportFunction (n : Naming) : List Line :=
  block r"const handleExport = () => {"
    (block r"if (format === 'csv') {"
        (code ["download(toCsv(rows), 'text/csv;charset=utf-8', '" ++ n.pluralLower ++ ".csv');"])
        r"} else {"
      ++ nest (code ["download(JSON.stringify(rows, null, 2), 'application/json', '"
        ++ n.pluralLower ++ ".json');"])
      ++ code [r"}", "close();"])
    r"};"

/-- The module of the dialog that saves the records as a file. -/
def exportDialog (e : Entity) : File where
  sections :=
    [clientDirective,
     [reactImport ["useState"], storeImport e.naming, dataImport [e.naming.interfaceName]],
     [.declared (headers e)], [.declared csvCell], [.declared (toCsv e.naming)],
     [.declared download],
     [.declared (.main "Export" (r"{ items }: { items: " ++ e.naming.interfaceName ++ r"[] }")
       (paragraphs
         [code
            [takeFromStore e.naming ["modals", "bulkData", "toggleModal"],
             "const [format, setFormat] = useState<'csv' | 'json'>('csv');"],
          code ["if (!modals.export) return null;"],
          code
            ["const rows = bulkData.length > 0 ? bulkData : items;", plainCloseFunction "export"],
          exportFunction e.naming,
          dialog ("Export " ++ e.naming.plural) .narrow
            ([paragraph "mb-4 text-sm"
                (r"{rows.length} " ++ e.naming.pluralLower ++ " will be exported.")]
              ++ division "mb-4 flex gap-4 text-sm"
                (formatChoice "csv" "CSV" ++ formatChoice "json" "JSON")
              ++ buttonRow
                [closeButton "Cancel",
                 button primaryStyle
                   [attrCode "disabled" "rows.length === 0", onClick "handleExport"] "Export"])]))]]

end EntitySlice.Slice
