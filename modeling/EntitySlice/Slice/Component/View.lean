import EntitySlice.Slice.Dialog

/-!
# The dialog that shows a record
-/

namespace EntitySlice.Slice

open EntitySlice.Source

/-- The image of a field, with its title as the text in its place. -/
def imageElement (f : Field) (value : String) : Element :=
  ⟨"img", [attrCode "src" value, ⟨"alt", .literal f.title⟩,
    classes "h-24 rounded object-cover"]⟩

/-- One image of a field with many. -/
def thumbnailElement : Element :=
  ⟨"img", [attrCode "key" "src", attrCode "src" "src", attr "alt" "",
    classes "h-16 rounded object-cover"]⟩

/-- A sample of a colour. -/
def swatchElement (value : String) : Element :=
  ⟨"span", [classes "inline-block h-4 w-4 rounded",
    attrCode "style" (object [.entry "backgroundColor" value])]⟩

/-- A value beside its label. -/
def details (style text : String) : Line := around ⟨"dd", [classes style]⟩ text

/-- The value of a field. -/
def shownValue (f : Field) : Line :=
  let v := member "selectedItem" f.name
  match f.widget with
  | .image => details "col-span-2" (braced (v ++ " && " ++ (imageElement f v).emptyTag))
  | .images =>
    details "col-span-2 flex flex-wrap gap-2"
      (braced ("(" ++ v ++ " ?? []).map((src) => " ++ thumbnailElement.emptyTag ++ ")"))
  | .color =>
    details "col-span-2 flex items-center gap-2" ((swatchElement v).emptyTag ++ braced v)
  | _ => details "col-span-2 text-sm" (braced (shownText f "selectedItem"))

/-- A label with the value beside it. -/
def detailRow (label : String) (value : Line) : List Line :=
  division "grid grid-cols-3 gap-4 py-2"
    [around ⟨"dt", [classes "text-sm font-medium text-gray-600"]⟩ label, value]

/-- A label with a point in time beside it. -/
def timeRow (label name : String) : List Line :=
  let v := "selectedItem." ++ name
  detailRow label (details "col-span-2 text-sm"
    (braced (v ++ " ? new Date(" ++ v ++ ").toLocaleString() : ''")))

/-- The labels and values of a record. -/
def detailList (e : Entity) : List Line :=
  element ⟨"dl", [classes "divide-y divide-gray-100"]⟩
    (e.fields.flatMap (fun f => detailRow (label f) (shownValue f))
      ++ timeRow "Created At" "createdAt" ++ timeRow "Updated At" "updatedAt")

/-- The module of the dialog that shows a record. -/
def viewDialog (e : Entity) : File where
  sections :=
    [clientDirective, [storeImport e.naming],
     [.declared (.main "View" "" (paragraphs
       [code [takeFromStore e.naming ["modals", "selectedItem", "setSelectedItem", "toggleModal"]],
        code ["if (!modals.view || !selectedItem) return null;"],
        closeFunction "view" ["setSelectedItem(null);"],
        dialog (e.naming.singular ++ " Details") .narrow (detailList e ++ closeRow)]))]]

end EntitySlice.Slice
