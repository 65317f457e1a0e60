import EntitySlice.Slice.Style

/-!
# Components for a choice of options

The bodies of the components that let the reader choose one or several of a list of options.
-/

namespace EntitySlice.Slice

open EntitySlice.Source

/-- The options of a list in a `select` element. -/
def optionElements (options : String) : List Line :=
  forEach options "option"
    (element ⟨"option", [attrCode "key" "option", attrCode "value" "option"]⟩ (code [r"{option}"]))

/-- The `select` element for one of a list of options. -/
def selectElement (options : String) : List Line :=
  element ⟨"select", [attrCode "id" "id", classes inputStyle, attrCode "value" "value ?? ''",
      onChange "(e) => onChange(e.target.value)"]⟩
    (around ⟨"option", [attr "value" ""]⟩ "Select..." :: optionElements options)

/-- A group with an input element for each option. -/
def optionGroup (input : Element) : List Line :=
  element ⟨"div", [attrCode "id" "id", classes "flex flex-wrap gap-4"]⟩
    (forEach "options" "option"
      (element ⟨"label", [attrCode "key" "option", classes "flex items-center gap-2 text-sm"]⟩
        (leaf input :: code [r"{option}"])))

/-- The look of a button beside an input element. -/
def sideButtonStyle : String := "rounded border border-gray-300 px-3 text-sm"

/-- The button that adds an item. -/
def addButton (action : String) : List Line :=
  element ⟨"button", [attr "type" "button", classes sideButtonStyle, onClick action]⟩ (code ["Add"])

/-- One option of a list. -/
def selectBody : List Line := block "return (" (selectElement "options") ");"

/-- One option, all of them in view. -/
def radioBody : List Line :=
  block "return ("
    (optionGroup ⟨"input", [attr "type" "radio", attrCode "name" "id", attrCode "value" "option",
      attrCode "checked" "value === option", onChange "() => onChange(option)"]⟩)
    ");"

/-- A text with options that match what is typed. -/
def autocompleteBody : List Line :=
  paragraphs
    [code
      ["const [open, setOpen] = useState(false);",
       "const matches = options.filter((option) => "
         ++ "option.toLowerCase().includes((value ?? '').toLowerCase()));"],
     block "return ("
      (division "relative"
        (block "<input"
            (code
              [r"id={id}",
               "className=\"" ++ inputStyle ++ "\"",
               r"value={value ?? ''}",
               r"onChange={(e) => {",
               "  onChange(e.target.value);",
               "  setOpen(true);",
               r"}}",
               r"onFocus={() => setOpen(true)}",
               r"onBlur={() => setTimeout(() => setOpen(false), 150)}"])
            "/>"
          ++ onlyIf "open && matches.length > 0"
            (element ⟨"ul", [classes ("absolute z-10 mt-1 max-h-48 w-full overflow-y-auto rounded "
                ++ "border border-gray-200 bg-white shadow")]⟩
              (forEach "matches" "option"
                (element ⟨"li", [attrCode "key" "option"]⟩
                  (element ⟨"button", [attr "type" "button",
                      classes "w-full px-3 py-1 text-left text-sm hover:bg-gray-100",
                      attrCode "onMouseDown" "() => onChange(option)"]⟩
                    (code [r"{option}"])))))))
      ");"]

/-- One option of a list that grows. -/
def dynamicSelectBody : List Line :=
  paragraphs
    [code
      ["const [extra, setExtra] = useState<string[]>([]);",
       "const [draft, setDraft] = useState('');",
       "const all = [...options, ...extra.filter((option) => !options.includes(option))];"],
     block r"const addOption = () => {"
      (code
        ["const next = draft.trim();",
         "if (!next) return;",
         "if (!all.includes(next)) setExtra([...extra, next]);",
         "onChange(next);",
         "setDraft('');"])
      r"};",
     block "return ("
      (division "flex flex-col gap-2"
        (selectElement "all"
          ++ division "flex gap-2"
            (leaf ⟨"input", [classes inputStyle, attr "placeholder" "Add option",
                attrCode "value" "draft", onChange "(e) => setDraft(e.target.value)"]⟩
              :: addButton "addOption")))
      ");"]

/-- Several options of a list. -/
def multiSelectBody : List Line :=
  paragraphs
    [code ["const selected = value ?? [];"],
     block "return ("
      (block "<select"
          (code
            [r"id={id}",
             "multiple",
             "className=\"" ++ inputStyle ++ "\"",
             r"value={selected}",
             r"onChange={(e) => onChange(Array.from(e.target.selectedOptions, "
               ++ r"(option) => option.value))}"])
          ">"
        ++ nest (optionElements "options") ++ code ["</select>"])
      ");"]

/-- Several options, all of them in view. -/
def multiCheckboxBody : List Line :=
  paragraphs
    [code ["const selected = value ?? [];"],
     Line.code "const toggle = (option: string) =>"
      :: nest (code ["onChange(selected.includes(option) ? "
        ++ "selected.filter((item) => item !== option) : [...selected, option]);"]),
     block "return ("
      (optionGroup ⟨"input", [attr "type" "checkbox",
        attrCode "checked" "selected.includes(option)", onChange "() => toggle(option)"]⟩)
      ");"]

end EntitySlice.Slice
