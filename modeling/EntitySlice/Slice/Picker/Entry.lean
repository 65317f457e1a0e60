import EntitySlice.Slice.Picker.Choice

/-!
# Components for free entries

The bodies of the components for lists of texts, formatted text, colours and images.
-/

namespace EntitySlice.Slice

open EntitySlice.Source

/-- A list of texts. -/
def stringArrayBody : List Line :=
  paragraphs
    [code ["const [draft, setDraft] = useState('');", "const items = value ?? [];"],
     block r"const add = () => {"
      (code
        ["const next = draft.trim();",
         "if (!next) return;",
         "onChange([...items, next]);",
         "setDraft('');"])
      r"};",
     block "return ("
      (element ⟨"div", []⟩
        (division "flex gap-2"
            (block "<input"
                (code
                  [r"id={id}",
                   "className=\"" ++ inputStyle ++ "\"",
                   r"value={draft}",
                   r"onChange={(e) => setDraft(e.target.value)}",
                   r"onKeyDown={(e) => {",
                   r"  if (e.key === 'Enter') {",
                   "    e.preventDefault();",
                   "    add();",
                   r"  }",
                   r"}}"])
                "/>"
              ++ addButton "add")
          ++ division "mt-2 flex flex-wrap gap-2"
            (forEach "items" "item, index"
              (element ⟨"span", [attrCode "key" r"`${item}-${index}`",
                  classes "flex items-center gap-1 rounded bg-gray-100 px-2 py-1 text-xs"]⟩
                (code [r"{item}"]
                  ++ element ⟨"button", [attr "type" "button",
                      onClick "() => onChange(items.filter((_, i) => i !== index))"]⟩
                    (code ["&times;"]))))))
      ");"]

/-- Formatted text. -/
def richTextBody : List Line :=
  block "return ("
    (element ⟨"div", [attrCode "id" "id"]⟩
      [leaf ⟨"ReactQuill", [attr "theme" "snow", attrCode "value" "value ?? ''",
        onChange "(content: string) => onChange(content)"]⟩])
    ");"

/-- The input element for the text of a value. -/
def valueInput (attributes : List Attribute) : Line :=
  leaf ⟨"input", classes inputStyle :: attributes
    ++ [attrCode "value" "value ?? ''", onChange "(e) => onChange(e.target.value)"]⟩

/-- A colour. -/
def colorBody : List Line :=
  block "return ("
    (division "flex items-center gap-2"
      [leaf ⟨"input", [attrCode "id" "id", attr "type" "color",
         classes "h-10 w-14 rounded border border-gray-300", attrCode "value" "value || '#000000'",
         onChange "(e) => onChange(e.target.value)"]⟩,
       valueInput []])
    ");"

/-- The statements that hand the content of a file to `receive` as an address. -/
def readAsAddress (receive : String) : List Line :=
  code
    ["const reader = new FileReader();",
     "reader.onload = () => " ++ receive ++ "(String(reader.result ?? ''));",
     "reader.readAsDataURL(file);"]

/-- The input element for files with images. -/
def imageFileInput (before after : List Attribute) : Line :=
  leaf ⟨"input", attrCode "id" "id" :: before
    ++ [attr "type" "file", attr "accept" "image/*"] ++ after⟩

/-- An image. -/
def imageBody : List Line :=
  let image : Element :=
    ⟨"img", [attrCode "src" "value", attr "alt" "", classes "h-24 w-24 rounded object-cover"]⟩
  paragraphs
    [block r"const handleFile = (file: File | undefined) => {"
      (code ["if (!file) return;"] ++ readAsAddress "onChange") r"};",
     block "return ("
      (division "flex flex-col gap-2"
        [imageFileInput [] [onChange "(e) => handleFile(e.target.files?.[0])"],
         valueInput [attr "placeholder" "or paste an image URL"],
         Line.code (braced ("value && " ++ image.emptyTag))])
      ");"]

/-- The button that takes an image out of a list. -/
def removeImageButton : List Line :=
  block "<button"
      (code
        ["type=\"button\"",
         "className=\"absolute -right-1 -top-1 rounded-full bg-white px-1 text-xs shadow\"",
         r"onClick={() => onChange(images.filter((_, i) => i !== index))}"])
      ">"
    ++ nest (code ["&times;"]) ++ code ["</button>"]

/-- A list of images. -/
def imagesBody : List Line :=
  paragraphs
    [code ["const inputRef = useRef<HTMLInputElement>(null);", "const images = value ?? [];"],
     Line.code "const readFile = (file: File) =>"
      :: nest (block r"new Promise<string>((resolve) => {" (readAsAddress "resolve") r"});"),
     block r"const handleFiles = async (files: FileList | null) => {"
      (code
        ["if (!files) return;",
         "const added = await Promise.all(Array.from(files).map(readFile));",
         "onChange([...images, ...added]);",
         "if (inputRef.current) inputRef.current.value = '';"])
      r"};",
     block "return ("
      (division "flex flex-col gap-2"
        (imageFileInput [attrCode "ref" "inputRef"]
            [attrPresent "multiple", onChange "(e) => handleFiles(e.target.files)"]
          :: division "flex flex-wrap gap-2"
            (forEach "images" "src, index"
              (element ⟨"div", [attrCode "key" r"`${src.slice(-16)}-${index}`",
                  classes "relative"]⟩
                (leaf ⟨"img", [attrCode "src" "src", attr "alt" "",
                    classes "h-16 w-16 rounded object-cover"]⟩
                  :: removeImageButton)))))
      ");"]

end EntitySlice.Slice
