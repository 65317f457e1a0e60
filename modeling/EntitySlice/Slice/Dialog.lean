import EntitySlice.Slice.Form

/-!
# Dialogs

The frame of a component that opens above the page: a title with a button that closes the dialog,
the errors found so far, and the row of buttons at the end.
-/

namespace EntitySlice.Slice

open EntitySlice.Source

/-- How much room a dialog takes. -/
inductive DialogWidth
  | narrow
  | wide
  deriving DecidableEq, Repr

/-- The style class of a width. -/
def DialogWidth.style : DialogWidth → String
  | narrow => "max-w-lg"
  | wide => "max-w-5xl"

/-- A dialog with a title; `close` is called to close it. -/
def dialog (title : String) (width : DialogWidth) (body : List Line) : List Line :=
  block "return ("
    (division "fixed inset-0 z-50 flex items-center justify-center bg-black/40"
      (division ("max-h-[90vh] w-full " ++ width.style
          ++ " overflow-y-auto rounded-lg bg-white p-6 shadow-xl")
        (division "mb-4 flex items-center justify-between"
            [around ⟨"h2", [classes "text-lg font-semibold"]⟩ (markupText title),
             button "text-gray-500 hover:text-gray-800" [onClick "close"] "&times;"]
          ++ body)))
    ");"

/-- The list of the errors found so far. -/
def errorList : List Line :=
  onlyIf "errors.length > 0"
    (element ⟨"ul", [classes "mb-4 list-disc rounded bg-red-50 p-3 pl-6 text-sm text-red-700"]⟩
      (forEach "errors" "message" [around ⟨"li", [attrCode "key" "message"]⟩ r"{message}"]))

/-- The row of buttons at the end of a dialog. -/
def buttonRow (buttons : List Line) : List Line :=
  division "flex justify-end gap-2" buttons

/-- The button that closes a dialog and does nothing else. -/
def closeButton (text : String) : Line := button secondaryStyle [onClick "close"] text

/-- The end of a dialog that shows something and asks nothing. -/
def closeRow : List Line := division "mt-4 flex justify-end" [closeButton "Close"]

/-- The first statement of a module that runs in the browser. -/
def clientDirective : List Item := [.directive "use client"]

/-- The function that finds the message in a failed answer. -/
def errorMessage : Declaration :=
  .const false "errorMessage"
    { first := " = (error: unknown, fallback: string) =>"
      body := [Line.code
        r"(error as { data?: { message?: string } })?.data?.message ?? fallback;"] }

/-- The import of names of the state library. -/
def reactImport (names : List String) : Item := .imported (.named names "react")

/-- The import of the hook for the state of the page. -/
def storeImport (n : Naming) : Item := .imported (.named [n.storeHook] "../store/store")

/-- The import of the hook that runs an operation. -/
def operationImport (n : Naming) (o : Operation) : Item :=
  .imported (.named [n.hook o] "../redux/rtk-api")

/-- The import of names of the shape of the records. -/
def dataImport (names : List String) : Item := .imported (.named names "../store/data/data")

/-- The statement that takes members of the state of the page. -/
def takeFromStore (n : Naming) (names : List String) : String :=
  "const " ++ inBraces names ++ " = " ++ n.storeHook ++ "();"

/-- The statement that takes the function of a mutation and its progress. -/
def takeMutation (n : Naming) (o : Operation) : String :=
  "const [" ++ n.operationName o ++ r", { isLoading }] = " ++ n.hook o ++ "();"

/-- The statement that begins with no errors. -/
def takeErrors : String := "const [errors, setErrors] = useState<string[]>([]);"

/-- The function that closes a dialog after some statements. -/
def closeFunction (modal : String) (before : List String) : List Line :=
  block r"const close = () => {"
    (code (before ++ ["toggleModal('" ++ modal ++ "', false);"])) r"};"

/-- The function that closes a dialog and does nothing else. -/
def plainCloseFunction (modal : String) : String :=
  "const close = () => toggleModal('" ++ modal ++ "', false);"

/-- A block that tries some statements and shows `fallback` if they fail without a message. -/
def tryBlock (statements : List String) (fallback : String) : List Line :=
  block r"try {" (code statements) r"} catch (error) {"
    ++ nest (code ["setErrors([errorMessage(error, " ++ literal fallback ++ ")]);"]) ++ code [r"}"]

/-- A function that runs without holding up the page. -/
def asyncFunction (name : String) (body : List Line) : List Line :=
  block ("const " ++ name ++ r" = async () => {") body r"};"

/-- The call of a mutation that waits for success. -/
def awaitMutation (n : Naming) (o : Operation) (argument : String) : String :=
  "await " ++ n.operationName o ++ "(" ++ argument ++ ").unwrap();"

end EntitySlice.Slice
