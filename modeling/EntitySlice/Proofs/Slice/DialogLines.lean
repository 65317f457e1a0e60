import EntitySlice.Proofs.Coverage
import EntitySlice.Proofs.LocalKeys
import EntitySlice.Proofs.Slice.ClientLines
import EntitySlice.Proofs.Slice.FieldComponents
import EntitySlice.Proofs.Slice.MarkupLines

/-!
# Lines of the dialogs

Whatever the names of an entity and of its fields are, the tags of the dialogs with input elements
can be read from their text (`exists_module_of_mem_formParts`). So can the tags of the dialog with
the sums (`areMarkup_summaryDialog`).
-/

namespace EntitySlice.Slice

open EntitySlice.Source

/-! ## Input elements of fields -/

theorem balanced_storeField {setter state : String} (hsetter : IsWord setter)
    (hstate : IsWord state) (f : Field) {value : String} (hvalue : Balanced value) :
    Balanced (storeField setter state f value) := by
  have hmembers : ∀ s ∈ (updatedMembers state f value).map Member.source, Balanced s := by
    have hspread : Balanced ("..." ++ state) :=
      (Balanced.ofList (by decide)).append (.of_isIdentifierPart hstate.parts)
    have hentry : Balanced (propertyKey f.name ++ ": " ++ value) :=
      ((Balanced.propertyKey f.name).append (.ofList (by decide))).append hvalue
    rw [updatedMembers, List.map_cons, List.map_singleton, List.forall_mem_cons,
      List.forall_mem_singleton]
    exact ⟨hspread, hentry⟩
  have hcall : Balanced (setter ++ "(") :=
    (Balanced.of_isIdentifierPart hsetter.parts).append (.ofList (by decide))
  exact (hcall.append (.inBraces hmembers)).append (.ofList (by decide))

theorem balanced_updateRow (f : Field) {value : String} (hvalue : Balanced value) :
    Balanced (updateRow f value) := by
  have hkey : Balanced ("updateRow(index, " ++ literal f.name ++ ", ") :=
    ((Balanced.ofList (by decide)).append (.literal f.name)).append (.ofList (by decide))
  exact (hkey.append hvalue).append (.ofList (by decide))

/-- Whether the key of a field can stand in an id. -/
def HasPlainKey (f : Field) : Prop := ∀ c ∈ f.localKey.toList, isKeyChar c = true

/-- Whether a character can stand in an id. -/
def isIdChar (c : Char) : Bool := c = '-' || isKeyChar c

/-- A heading or a label with the title of a field. -/
theorem isMarkup_label {e : Element} (he : e.Readable) (f : Field) :
    (Source.Content.around e (label f)).IsMarkup :=
  ⟨he, .inl (lt_notMem_markupText f.title)⟩

theorem readable_labelElement {id : String} (hid : (AttributeValue.text id).Readable) :
    (labelElement id).Readable := by
  have hword : IsWord "htmlFor" := by decide
  refine readable_element (by decide) ?_
  rw [List.forall_mem_cons, List.forall_mem_singleton]
  exact ⟨⟨hword, hid⟩, readable_classes (by decide)⟩

section

variable {f : Field} (h : HasPlainKey f)

include h

/-- An id has a dash besides what can be in the key of a field. -/
theorem isIdChar_of_mem_elementId {component : String}
    (hcomponent : component.toList.all isIdChar = true) :
    ∀ c ∈ (elementId component f).toList, isIdChar c = true := by
  intro c hc
  rw [elementId, String.toList_append, String.toList_append, List.mem_append, List.mem_append] at hc
  rcases hc with (hc | hc) | hc
  · exact List.all_eq_true.mp hcomponent c hc
  · obtain rfl := List.mem_singleton.mp hc
    rfl
  · rw [isIdChar, h c hc, Bool.or_true]

theorem readable_elementId {component : String}
    (hcomponent : component.toList.all isIdChar = true) :
    (AttributeValue.text (elementId component f)).Readable :=
  have hchars := isIdChar_of_mem_elementId h hcomponent
  ⟨fun hc => absurd (hchars _ hc) (by decide), fun hc => absurd (hchars _ hc) (by decide)⟩

/-- The element for a field and its label are read back. -/
theorem areMarkup_fieldInput {state setter component : String} (hstate : IsWord state)
    (hsetter : IsWord setter) (hcomponent : component.toList.all isIdChar = true) :
    AreMarkup (fieldInput state setter component f) := by
  have hid := readable_elementId h hcomponent
  have htext : '<' ∉ (label f ++ requiredMark f).toList := by
    rw [String.toList_append, List.mem_append, not_or]
    refine ⟨lt_notMem_markupText f.title, ?_⟩
    unfold requiredMark
    split <;> decide
  have hinput := readable_inputElement (f := f) hid (isExpression_member hstate f.name)
    fun _ hv => balanced_storeField hsetter hstate f hv
  exact .division (readable_classes (by decide)) (.append
    (.around (readable_labelElement hid) (.inl htext)) (.leaf hinput))

/-- A cell has an id for each row. -/
theorem areMarkup_bulkEditCell : AreMarkup (bulkEditCell f) := by
  have hid : (AttributeValue.numbered (elementId "bulk-edit" f)).Readable := by
    intro c hc hmark
    have hmarks : ['\x60', '\\', '\n'].all (!isIdChar ·) = true := by decide
    simpa [isIdChar_of_mem_elementId h (by decide) c hc] using
      List.all_eq_true.mp hmarks c hmark
  have hrow : IsWord "row" := by decide
  have hinput := readable_inputElement (f := f) hid (isExpression_member hrow f.name)
    fun _ hv => balanced_updateRow f hv
  exact .element (readable_styled (by decide) (readable_classes (by decide))) (.leaf hinput)

/-- A ticked field has a checkbox, and an input element with an id of its own. -/
theorem areMarkup_tickedInput : AreMarkup (tickedInput f) := by
  have hchecked : IsExpression ("Boolean(enabled[" ++ (literal f.name ++ "])")) :=
    isExpression_append (by decide) (.ofList (by decide))
      ((Balanced.literal f.name).append (.ofList (by decide)))
  have hchange : IsExpression ("() => toggleField(" ++ (literal f.name ++ ")")) :=
    isExpression_append (by decide) (.ofList (by decide))
      ((Balanced.literal f.name).append (.ofList (by decide)))
  rw [← String.append_assoc] at hchecked hchange
  have hcheckbox : (⟨"input", [attr "type" "checkbox",
      attrCode "checked" ("Boolean(enabled[" ++ literal f.name ++ "])"),
      onChange ("() => toggleField(" ++ literal f.name ++ ")")]⟩ : Element).Readable := by
    refine readable_element (by decide) ?_
    simp only [List.forall_mem_cons]
    exact ⟨readable_attr (by decide) (by decide), readable_attrCode (by decide) hchecked,
      readable_attrCode (by decide) hchange, List.forall_mem_nil _⟩
  have hlabel : AreMarkup [Line.code (label f)] := .single (.inl (lt_notMem_markupText f.title))
  have hid : (AttributeValue.text (elementId "bulk-dynamic" f)).Readable :=
    readable_elementId h (by decide)
  have hwords : IsWord "draft" ∧ IsWord "setDraft" := by decide
  have hinput := readable_inputElement (f := f) hid (isExpression_member hwords.1 f.name)
    fun _ hv => balanced_storeField hwords.2 hwords.1 f hv
  have hcondition : OneLine ("enabled[" ++ literal f.name ++ "]") :=
    ((OneLine.ofList (by decide)).append (oneLine_literal f.name)).append (.ofList (by decide))
  have hbox : AreMarkup (element ⟨"label", [classes "flex items-center gap-2 text-sm font-medium"]⟩
      [leaf ⟨"input", [attr "type" "checkbox",
          attrCode "checked" ("Boolean(enabled[" ++ literal f.name ++ "])"),
          onChange ("() => toggleField(" ++ literal f.name ++ ")")]⟩,
        Line.code (label f)]) :=
    .element (readable_styled (by decide) (readable_classes (by decide)))
      (.append (.leaf hcheckbox) hlabel)
  exact .division (readable_classes (by decide)) (.append hbox
    (.onlyIf hcondition (.division (readable_classes (by decide)) (.leaf hinput))))

end

theorem areMarkup_bulkEditTable {e : Entity} (h : ∀ f ∈ e.fields, HasPlainKey f) :
    AreMarkup (bulkEditTable e) := by
  have hplain {tag : String} (htag : IsWord tag) : (⟨tag, []⟩ : Element).Readable :=
    readable_element htag (List.forall_mem_nil _)
  have hheading : (⟨"th", [classes "px-2 py-1 text-left font-medium"]⟩ : Element).Readable :=
    readable_styled (by decide) (readable_classes (by decide))
  have hrow : (⟨"tr", [attrCode "key" "row._id ?? index"]⟩ : Element).Readable :=
    readable_element (by decide) (List.forall_mem_singleton.mpr
      (readable_attrCode (by decide) (isExpression_ofList (by decide) (by decide))))
  have hhead : AreMarkup (element ⟨"thead", []⟩ (element ⟨"tr", []⟩ (e.fields.map fun f =>
      around ⟨"th", [classes "px-2 py-1 text-left font-medium"]⟩ (label f)))) :=
    .element (hplain (by decide)) (.element (hplain (by decide))
      (OnLines.map fun f _ => isMarkup_label hheading f))
  have hbody : AreMarkup (element ⟨"tbody", []⟩ (forEach "rows" "row, index"
      (element ⟨"tr", [attrCode "key" "row._id ?? index"]⟩ (e.fields.flatMap bulkEditCell)))) :=
    .element (hplain (by decide)) (.forEach (.ofList (by decide)) (.ofList (by decide))
      (.element hrow (.flatMap fun f hf => areMarkup_bulkEditCell (h f hf))))
  exact .division (readable_classes (by decide)) (.element (readable_styled (by decide)
    (readable_classes (by decide))) (hhead.append hbody))

/-- The table with the sums has two cells in each row before those of the fields. -/
theorem areMarkup_summaryTable (e : Entity) : AreMarkup (summaryTable e) := by
  have hcell {tag style text : String} (htag : IsWord tag) (hstyle : (classes style).Readable)
      (htext : OneLine text) : AreMarkup [around ⟨tag, [classes style]⟩ text] :=
    .around (readable_styled htag hstyle) (.inr htext)
  have hheadings : AreMarkup (e.numeric.map summaryHeading) := by
    refine OnLines.map fun f _ =>
      ⟨readable_styled (by decide) (readable_classes (by decide)), .inl ?_⟩
    rw [String.toList_append, List.mem_append, not_or]
    exact ⟨lt_notMem_markupText f.title, by decide⟩
  have hsums : AreMarkup (e.numeric.map summaryCell) :=
    OnLines.map fun f _ => ⟨readable_styled (by decide) (readable_classes (by decide)),
      .inr (((OneLine.ofList (by decide)).append (oneLine_literal _)).append (.ofList (by decide)))⟩
  have hrow : (⟨"tr", [attrCode "key" r"`${row._id.year}-${row._id.month}`"]⟩ : Element).Readable :=
    readable_element (by decide) (List.forall_mem_singleton.mpr
      (readable_attrCode (by decide) ⟨.ofList (by decide), by decide +kernel⟩))
  have hhead : AreMarkup (element ⟨"thead", [classes "bg-gray-50"]⟩ (element ⟨"tr", []⟩
      ([around ⟨"th", [classes "px-3 py-2 text-left"]⟩ "Month",
        around ⟨"th", [classes "px-3 py-2 text-right"]⟩ "Count"]
        ++ e.numeric.map summaryHeading))) := by
    refine .element (readable_styled (by decide) (readable_classes (by decide)))
      (.element (readable_element (by decide) (List.forall_mem_nil _)) (.append (.cons ?_ ?_)
        hheadings))
    · exact hcell (by decide) (readable_classes (by decide)) (.ofList (by decide))
    · exact hcell (by decide) (readable_classes (by decide)) (.ofList (by decide))
  have hbody : AreMarkup (element ⟨"tbody", [classes "divide-y divide-gray-100"]⟩
      (forEach "monthly" "row"
        (element ⟨"tr", [attrCode "key" r"`${row._id.year}-${row._id.month}`"]⟩
          ([around ⟨"td", [classes "px-3 py-2"]⟩ r"{monthLabel(row)}",
            around ⟨"td", [classes "px-3 py-2 text-right"]⟩ r"{row.count}"]
            ++ e.numeric.map summaryCell)))) := by
    refine .element (readable_styled (by decide) (readable_classes (by decide)))
      (.forEach (.ofList (by decide)) (.ofList (by decide)) (.element hrow (.append (.cons ?_ ?_)
        hsums)))
    · exact hcell (by decide) (readable_classes (by decide)) (.ofList (by decide))
    · exact hcell (by decide) (readable_classes (by decide)) (.ofList (by decide))
  exact .element (readable_styled (by decide) (readable_classes (by decide))) (hhead.append hbody)

/-! ## Statements with names -/

section

variable {n : Naming} (h : n.OfParts)

include h

theorem isStatement_takeFromStore {names : List String} (hnames : ∀ s ∈ names, OneLine s) :
    IsStatement (takeFromStore n names) := by
  have hstart : IsStatement ("const " ++ inBraces names ++ " = ") :=
    (IsStatement.append (.ofList (by decide)) (.inBraces hnames)).append (.ofList (by decide))
  exact (hstart.append h.oneLine_storeHook).append (.ofList (by decide))

theorem isStatement_takeMutation (o : Operation) : IsStatement (takeMutation n o) := by
  have hname : OneLine (n.operationName o) :=
    .of_isIdentifierPart (isIdentifierPart_operationName h o)
  have hhook : OneLine (n.hook o) := .of_isIdentifierPart (isIdentifierPart_hook h o)
  have hstart : IsStatement ("const [" ++ n.operationName o ++ r", { isLoading }] = ") :=
    (IsStatement.append (.ofList (by decide)) hname).append (.ofList (by decide))
  exact (hstart.append hhook).append (.ofList (by decide))

theorem isStatement_awaitMutation (o : Operation) {argument : String}
    (hargument : OneLine argument) : IsStatement (awaitMutation n o argument) := by
  have hname : OneLine (n.operationName o) :=
    .of_isIdentifierPart (isIdentifierPart_operationName h o)
  have hstart : IsStatement ("await " ++ n.operationName o ++ "(") :=
    (IsStatement.append (.ofList (by decide)) hname).append (.ofList (by decide))
  exact (hstart.append hargument).append (.ofList (by decide))

theorem isStatement_takeDraft : IsStatement (takeDraft n) := by
  have hstart : IsStatement ("const [draft, setDraft] = useState<" ++ n.interfaceName ++ ">(") :=
    (IsStatement.append (.ofList (by decide)) h.oneLine_interfaceName).append (.ofList (by decide))
  exact (hstart.append h.oneLine_defaultConst).append (.ofList (by decide))

theorem isStatement_resetDraft : IsStatement (resetDraft n) :=
  (IsStatement.append (.ofList (by decide)) h.oneLine_defaultConst).append (.ofList (by decide))

theorem areMarkup_storeImport : AreMarkup (storeImport n).lines :=
  .named (List.forall_mem_singleton.mpr h.oneLine_storeHook) (.ofList (by decide))

theorem areMarkup_operationImport (o : Operation) : AreMarkup (operationImport n o).lines :=
  .named (List.forall_mem_singleton.mpr (.of_isIdentifierPart (isIdentifierPart_hook h o)))
    (.ofList (by decide))

theorem areMarkup_submitFunction (o : Operation) {item argument : String} (hitem : OneLine item)
    (hargument : OneLine argument) : AreMarkup (submitFunction n o item argument) := by
  have hfound : IsStatement ("const found = " ++ n.validateFn ++ "(" ++ item ++ ");") :=
    (((IsStatement.append (.ofList (by decide)) h.oneLine_validateFn).append
      (.ofList (by decide))).append hitem).append (.ofList (by decide))
  have hreturn : AreMarkup (block r"if (found.length > 0) {"
      (code ["setErrors(found);", "return;"]) r"}") := by
    refine .block (.ofList (by decide)) (.code ?_) (.ofList (by decide))
    rw [List.forall_mem_cons, List.forall_mem_singleton]
    exact ⟨.ofList (by decide), .ofList (by decide)⟩
  refine .asyncFunction (.ofList (by decide))
    (.append (.append (.statement hfound) hreturn) (.tryBlock ?_ _))
  rw [List.forall_mem_cons, List.forall_mem_singleton]
  exact ⟨isStatement_awaitMutation h o hargument, .ofList (by decide)⟩

theorem areMarkup_bulkSubmitFunction {updates : String} (hupdates : OneLine updates) :
    AreMarkup (bulkSubmitFunction n updates) := by
  refine .asyncFunction (.ofList (by decide)) (.tryBlock ?_ _)
  simp only [List.forall_mem_cons]
  exact ⟨isStatement_awaitMutation h .bulkUpdate hupdates, .ofList (by decide),
    .ofList (by decide), List.forall_mem_nil _⟩

theorem areMarkup_selectionNote {more : String} (hmore : OneLine more) :
    AreMarkup [selectionNote n more] :=
  .paragraph (readable_classes (by decide)) ((((OneLine.ofList (by decide)).append
    h.oneLine_pluralLower).append (.ofList (by decide))).append hmore)

end

theorem areMarkup_pickerImports (e : Entity) : ∀ i ∈ pickerImports e, AreMarkup i.lines := by
  rw [pickerImports, List.forall_mem_map]
  intro p _
  have hname : OneLine p.component := by cases p <;> exact .ofList (by decide)
  have hsource : OneLine ("./others-field-type/" ++ p.component) :=
    .append (.ofList (by decide)) hname
  exact .imported rfl (.intercalate (.ofList (by decide)) (List.forall_mem_singleton.mpr hname))
    hsource

theorem areMarkup_buttonRow {action busy idle disabled : String}
    (hdisabled : IsExpression disabled) (haction : IsExpression action) :
    AreMarkup (buttonRow (closeButton "Cancel" ::
      busyButton primaryStyle [attrCode "disabled" disabled, onClick action] busy idle)) := by
  have hattributes : ∀ a ∈ [attrCode "disabled" disabled, onClick action], a.Readable := by
    rw [List.forall_mem_cons, List.forall_mem_singleton]
    exact ⟨readable_attrCode (by decide) hdisabled, readable_attrCode (by decide) haction⟩
  exact .division (readable_classes (by decide)) (.append (.closeButton (.ofList (by decide)))
    (.busyButton (readable_classes (by decide)) hattributes busy idle))

theorem areMarkup_submitButtons (busy idle : String) : AreMarkup (submitButtons busy idle) :=
  areMarkup_buttonRow (isExpression_ofList (by decide) (by decide))
    (isExpression_ofList (by decide) (by decide))

theorem areMarkup_bulkButtons {action : String} (haction : IsExpression action)
    (busy idle : String) : AreMarkup (bulkButtons action busy idle) :=
  areMarkup_buttonRow (isExpression_ofList (by decide) (by decide)) haction

theorem isStatement_plainCloseFunction {modal : String} (h : OneLine modal) :
    IsStatement (plainCloseFunction modal) :=
  (IsStatement.append (.ofList (by decide)) h).append (.ofList (by decide))

theorem areMarkup_guardedSubmit {condition : String} (hcondition : OneLine condition)
    (complaint : String) : AreMarkup (guardedSubmit condition complaint) := by
  have hguard : IsStatement ("if (" ++ condition ++ r") {") :=
    (IsStatement.append (.ofList (by decide)) hcondition).append (.ofList (by decide))
  have hcomplaint : IsStatement ("setErrors([" ++ literal complaint ++ "]);") :=
    (IsStatement.append (.ofList (by decide)) (oneLine_literal complaint)).append
      (.ofList (by decide))
  refine .asyncFunction (.ofList (by decide)) (.append (.block hguard (.code ?_)
    (.ofList (by decide))) (.statement (.ofList (by decide))))
  rw [List.forall_mem_cons, List.forall_mem_singleton]
  exact ⟨hcomplaint, .ofList (by decide)⟩

/-! ## The dialogs -/

/-- The input element for one end of a span of time and its label are read back. -/
theorem areMarkup_dateInput {id text value setter : String}
    (hid : (AttributeValue.text id).Readable) (htext : OneLine text) (hvalue : IsExpression value)
    (hsetter : IsWord setter) : AreMarkup (dateInput id text value setter) := by
  have hchange : IsExpression ("(e) => " ++ (setter ++ "(e.target.value)")) :=
    isExpression_append (by decide) (.ofList (by decide))
      ((Balanced.of_isIdentifierPart hsetter.parts).append (.ofList (by decide)))
  rw [← String.append_assoc] at hchange
  have hword : IsWord "id" := by decide
  refine .division (readable_classes (by decide)) (.append
    (.around (readable_labelElement hid) (.inr htext)) (.leaf (readable_element (by decide) ?_)))
  simp only [List.forall_mem_cons]
  exact ⟨⟨hword, hid⟩, readable_attr (by decide) (by decide), readable_classes (by decide),
    readable_attrCode (by decide) hvalue, readable_attrCode (by decide) hchange,
    List.forall_mem_nil _⟩

theorem areMarkup_spanFunction {name span : String} (hname : OneLine name) (hspan : OneLine span) :
    AreMarkup (spanFunction name span) := by
  have hset : IsStatement ("setDateRange(" ++ span ++ ");") :=
    (IsStatement.append (.ofList (by decide)) hspan).append (.ofList (by decide))
  refine .block ((IsStatement.append (.ofList (by decide)) hname).append (.ofList (by decide)))
    (.code ?_) (.ofList (by decide))
  rw [List.forall_mem_cons, List.forall_mem_singleton]
  exact ⟨hset, .ofList (by decide)⟩

theorem areMarkup_propertyLine {key type : String} (hkey : IsStatement key) (htype : OneLine type) :
    AreMarkup [propertyLine key type] :=
  .line (((hkey.append (.ofList (by decide))).append htype).append (.ofList (by decide)))

theorem areMarkup_interface {name : String} {properties : List Line} (hname : OneLine name)
    (hproperties : AreMarkup properties) :
    AreMarkup (Declaration.interface false name properties).lines := by
  have hword : Declaration.exportWord false ++ "interface " = "interface " := rfl
  rw [Declaration.lines, hword]
  exact .block (((IsStatement.ofList (by decide)).append hname).append (.ofList (by decide)))
    hproperties (.ofList (by decide))

/-- A constant with lines in it and no last line. -/
theorem areMarkup_const {name first : String} {body : List Line} (hname : OneLine name)
    (hfirst : OneLine first) (hbody : AreMarkup body) :
    AreMarkup (Declaration.const false name { first, body }).lines := by
  have hword : Declaration.exportWord false ++ "const " = "const " := rfl
  rw [Declaration.lines, Definition.lines, hword]
  exact .append (.append (.line (((IsStatement.ofList (by decide)).append hname).append hfirst))
    (.nest hbody)) fun _ hc => absurd hc List.not_mem_nil

section

variable {e : Entity} (h : e.naming.OfParts)

include h

/-- The choice of the field has an option for each field. -/
theorem areMarkup_fieldChoice : AreMarkup (fieldChoice e) := by
  have hlabel : (labelElement fieldChoiceId).Readable := readable_labelElement (by decide)
  have hchange : IsExpression ("(e) => setField(e.target.value as keyof "
      ++ (e.naming.interfaceName ++ ")")) := by
    have hname : Balanced e.naming.interfaceName :=
      (Balanced.ofList (by decide)).append (.of_isIdentifierPart h.plural)
    exact isExpression_append (by decide) (.ofList (by decide)) (hname.append (.ofList (by decide)))
  rw [← String.append_assoc] at hchange
  have hselect : (⟨"select", [attr "id" fieldChoiceId, classes inputStyle,
      attrCode "value" "field", onChange ("(e) => setField(e.target.value as keyof "
        ++ e.naming.interfaceName ++ ")")]⟩ : Element).Readable := by
    refine readable_element (by decide) ?_
    simp only [List.forall_mem_cons]
    exact ⟨readable_attr (by decide) (by decide), readable_classes (by decide),
      readable_attrCode (by decide) (isExpression_ofList (by decide) (by decide)),
      readable_attrCode (by decide) hchange, List.forall_mem_nil _⟩
  have hnone : AreMarkup [around ⟨"option", [attr "value" ""]⟩ "Select a field"] :=
    .around (readable_element (by decide) (List.forall_mem_singleton.mpr
      (readable_attr (by decide) (by decide)))) (.inr (.ofList (by decide)))
  have hoptions : AreMarkup (e.fields.map fun f =>
      around ⟨"option", [attrCode "value" (literal f.name)]⟩ (label f)) :=
    OnLines.map fun f _ => isMarkup_label (readable_element (by decide)
      (List.forall_mem_singleton.mpr (readable_attrCode (by decide)
        (isExpression_literal f.name)))) f
  exact .division (readable_classes (by decide)) (.append (.around hlabel
    (.inr (.ofList (by decide)))) (.element hselect (.append hnone hoptions)))

/-- The function that gives the values of the ticked fields. -/
theorem areMarkup_tickedValues : AreMarkup (tickedValues e.naming) := by
  have hstart : IsStatement ("const updateData = (): Partial<" ++ e.naming.interfaceName
      ++ "> =>") :=
    (IsStatement.append (.ofList (by decide)) h.oneLine_interfaceName).append (.ofList (by decide))
  have hpairs : IsStatement (".map(([key]) => [key, draft[key as keyof "
      ++ e.naming.interfaceName ++ "]])") :=
    (IsStatement.append (.ofList (by decide)) h.oneLine_interfaceName).append (.ofList (by decide))
  refine .append (.line hstart) (.nest (.block (.ofList (by decide)) (.append
    (.line (.ofList (by decide))) (.nest (.code ?_))) (.ofList (by decide))))
  rw [List.forall_mem_cons, List.forall_mem_singleton]
  exact ⟨.ofList (by decide), hpairs⟩

/-- The imports of a dialog in which drafts of many records are edited. -/
theorem areMarkup_draftImports : ∀ i ∈ draftImports e, AreMarkup i.lines := by
  have hdata : ∀ s ∈ [e.naming.interfaceName, e.naming.defaultConst], OneLine s := by
    rw [List.forall_mem_cons, List.forall_mem_singleton]
    exact ⟨h.oneLine_interfaceName, h.oneLine_defaultConst⟩
  rw [draftImports, List.forall_mem_append]
  refine ⟨?_, areMarkup_pickerImports e⟩
  simp only [List.forall_mem_cons]
  exact ⟨.reactImport (by decide), areMarkup_storeImport h,
    areMarkup_operationImport h .bulkUpdate, .dataImport hdata, List.forall_mem_nil _⟩

theorem areMarkup_filterDialog : AreMarkup (filterDialog e).lines := by
  have hinputs : AreMarkup (dateInput "filter-start" "Created from" "start" "setStart"
      ++ dateInput "filter-end" "Created to" "end" "setEnd") :=
    .append (areMarkup_dateInput (by decide) (.ofList (by decide))
        (isExpression_ofList (by decide) (by decide)) (by decide))
      (areMarkup_dateInput (by decide) (.ofList (by decide))
        (isExpression_ofList (by decide) (by decide)) (by decide))
  have halert : AreMarkup [paragraphIf "invalid" ("mb-4 " ++ alertStyle)
      "Start date must be before end date."] :=
    .paragraphIf (.ofList (by decide)) ⟨by decide, by decide +kernel⟩ (.ofList (by decide))
  have happly : ∀ a ∈ [attrCode "disabled" "invalid", onClick "apply"], a.Readable := by
    rw [List.forall_mem_cons]
    exact ⟨readable_attrCode (by decide) (isExpression_ofList (by decide) (by decide)),
      AreMarkup.readable_onClick (by decide) (by decide)⟩
  have hbuttons : AreMarkup (buttonRow [button secondaryStyle [onClick "reset"] "Reset",
      button primaryStyle [attrCode "disabled" "invalid", onClick "apply"] "Apply"]) :=
    .division (readable_classes (by decide)) (.append
      (.button (readable_classes (by decide)) (AreMarkup.readable_onClick (by decide) (by decide))
        (.ofList (by decide)))
      (.button (readable_classes (by decide)) happly (.ofList (by decide))))
  have hstart : ∀ s ∈ [takeFromStore e.naming ["modals", "dateRange", "setDateRange",
      "toggleModal"], "const [start, setStart] = useState(dateRange.start);",
      "const [end, setEnd] = useState(dateRange.end);"], IsStatement s := by
    simp only [List.forall_mem_cons]
    exact ⟨isStatement_takeFromStore h (by decide), .ofList (by decide), .ofList (by decide),
      List.forall_mem_nil _⟩
  have heffect : ∀ s ∈ ["setStart(dateRange.start);", "setEnd(dateRange.end);"],
      IsStatement s := by
    rw [List.forall_mem_cons, List.forall_mem_singleton]
    exact ⟨.ofList (by decide), .ofList (by decide)⟩
  have hchecks : ∀ s ∈ [plainCloseFunction "filter",
      "const invalid = Boolean(start && end && start > end);"], IsStatement s := by
    rw [List.forall_mem_cons, List.forall_mem_singleton]
    exact ⟨isStatement_plainCloseFunction (.ofList (by decide)), .ofList (by decide)⟩
  refine .file ?_
  simp only [filterDialog, List.forall_mem_cons, List.not_mem_nil, false_imp_iff, implies_true,
    and_true]
  refine ⟨AreMarkup.clientDirective, ⟨.reactImport (by decide), areMarkup_storeImport h⟩,
    .main (.ofList (by decide)) (.ofList (by decide)) ?_⟩
  simp only [List.forall_mem_cons]
  exact ⟨.code hstart, .block (.ofList (by decide)) (.code heffect) (.ofList (by decide)),
    .statement (.ofList (by decide)), .code hchecks,
    areMarkup_spanFunction (.ofList (by decide)) (.ofList (by decide)),
    areMarkup_spanFunction (.ofList (by decide)) (.ofList (by decide)),
    .dialog _ _ ((hinputs.append halert).append hbuttons), List.forall_mem_nil _⟩

/-- The request for the sums. -/
theorem areMarkup_summaryQuery :
    AreMarkup (block (r"const { data, isLoading, isError } = " ++ e.naming.hook .summary ++ "(")
      (code [r"{ startDate: dateRange.start, endDate: dateRange.end },",
        r"{ skip: !modals.summary }"]) ");") := by
  have hhook : OneLine (e.naming.hook .summary) :=
    .of_isIdentifierPart (isIdentifierPart_hook h .summary)
  refine .block ((IsStatement.append (.ofList (by decide)) hhook).append (.ofList (by decide)))
    (.code ?_) (.ofList (by decide))
  rw [List.forall_mem_cons, List.forall_mem_singleton]
  exact ⟨.ofList (by decide), .ofList (by decide)⟩

theorem areMarkup_summaryDialog : AreMarkup (summaryDialog e).lines := by
  have htable := areMarkup_summaryTable e
  have hinterface : AreMarkup (Declaration.interface false "MonthlyRow"
      [propertyLine "_id" r"{ year: number; month: number }", propertyLine "count" "number",
        propertyLine "[total: string]" "unknown"]).lines := by
    refine areMarkup_interface (.ofList (by decide)) (.cons ?_ (.cons ?_ ?_))
    · exact areMarkup_propertyLine (.ofList (by decide)) (.ofList (by decide))
    · exact areMarkup_propertyLine (.ofList (by decide)) (.ofList (by decide))
    · exact areMarkup_propertyLine (.ofList (by decide)) (.ofList (by decide))
  have hlabel : AreMarkup (Declaration.const false "monthLabel"
      { first := " = (row: MonthlyRow) =>"
        body := code [r"new Date(row._id.year, row._id.month - 1).toLocaleString(undefined, "
          ++ r"{ month: 'short', year: 'numeric' });"] }).lines :=
    areMarkup_const (.ofList (by decide)) (.ofList (by decide))
      (.statement (.append (.ofList (by decide)) (.ofList (by decide))))
  have hvalues : ∀ s ∈ [plainCloseFunction "summary",
      "const monthly: MonthlyRow[] = data?.data?.monthly ?? [];",
      "const totalCount: number = data?.data?.totalCount ?? 0;"], IsStatement s := by
    simp only [List.forall_mem_cons]
    exact ⟨isStatement_plainCloseFunction (.ofList (by decide)), .ofList (by decide),
      .ofList (by decide), List.forall_mem_nil _⟩
  have htotal : OneLine ("Total " ++ e.naming.pluralLower ++ r": {totalCount}") :=
    ((OneLine.ofList (by decide)).append h.oneLine_pluralLower).append (.ofList (by decide))
  have hnotes : AreMarkup [paragraphIf "isLoading" waitStyle "Loading...",
      paragraphIf "isError" alertStyle "Failed to load summary.",
      paragraph "mb-4 text-sm" ("Total " ++ e.naming.pluralLower ++ r": {totalCount}")] := by
    refine .cons ?_ (.cons ?_ (.paragraph (readable_classes (by decide)) htotal))
    · exact .paragraphIf (.ofList (by decide)) (readable_classes (by decide)) (.ofList (by decide))
    · exact .paragraphIf (.ofList (by decide)) (readable_classes (by decide)) (.ofList (by decide))
  have hclose : AreMarkup closeRow :=
    .division (readable_classes (by decide)) (.closeButton (.ofList (by decide)))
  refine .file ?_
  simp only [summaryDialog, List.forall_mem_cons, List.not_mem_nil, false_imp_iff, implies_true,
    and_true]
  refine ⟨AreMarkup.clientDirective, ⟨areMarkup_storeImport h,
    areMarkup_operationImport h .summary⟩, hinterface, hlabel,
    .main (.ofList (by decide)) (.ofList (by decide)) ?_⟩
  simp only [List.forall_mem_cons]
  exact ⟨.append (.statement (isStatement_takeFromStore h (by decide))) (areMarkup_summaryQuery h),
    .statement (.ofList (by decide)), .code hvalues,
    .dialog _ _ ((hnotes.append htable).append hclose), List.forall_mem_nil _⟩

variable (hkeys : ∀ f ∈ e.fields, HasPlainKey f)

include hkeys

theorem areMarkup_addDialog : AreMarkup (addDialog e).lines := by
  have hinputs : AreMarkup (addInputs e) := .flatMap fun f hf =>
    areMarkup_fieldInput (hkeys f hf) (by decide) (by decide) (by decide)
  have hstart : ∀ s ∈ [takeFromStore e.naming
      ["modals", "newItem", "setNewItem", "resetNewItem", "toggleModal"],
      takeMutation e.naming .add, takeErrors], IsStatement s := by
    simp only [List.forall_mem_cons]
    exact ⟨isStatement_takeFromStore h (by decide), isStatement_takeMutation h .add,
      .ofList (by decide), List.forall_mem_nil _⟩
  have hclose : ∀ s ∈ ["setErrors([]);", "resetNewItem();"], IsStatement s := by
    rw [List.forall_mem_cons, List.forall_mem_singleton]
    exact ⟨.ofList (by decide), .ofList (by decide)⟩
  refine .file ?_
  simp only [addDialog, List.forall_mem_append, List.forall_mem_cons, List.not_mem_nil,
    false_imp_iff, implies_true, and_true]
  refine ⟨AreMarkup.clientDirective, ⟨⟨.reactImport (by decide), areMarkup_storeImport h,
    areMarkup_operationImport h .add, .dataImport ?_⟩, areMarkup_pickerImports e⟩,
    .errorMessage, .main (.ofList (by decide)) (.ofList (by decide)) ?_⟩
  · exact List.forall_mem_singleton.mpr h.oneLine_validateFn
  · simp only [List.forall_mem_cons]
    exact ⟨.code hstart, .statement (.ofList (by decide)),
      .closeFunction (.ofList (by decide)) hclose,
      areMarkup_submitFunction h .add (.ofList (by decide)) (.ofList (by decide)),
      .dialog _ _ ((AreMarkup.errorList.append hinputs).append (areMarkup_submitButtons _ _)),
      List.forall_mem_nil _⟩

theorem areMarkup_editDialog : AreMarkup (editDialog e).lines := by
  have hinputs : AreMarkup (editInputs e) := .flatMap fun f hf =>
    areMarkup_fieldInput (hkeys f hf) (by decide) (by decide) (by decide)
  have hstate : IsStatement ("const [item, setItem] = useState<" ++ e.naming.interfaceName
      ++ " | null>(selectedItem);") :=
    (IsStatement.append (.ofList (by decide)) h.oneLine_interfaceName).append (.ofList (by decide))
  have hstart : ∀ s ∈ [takeFromStore e.naming
      ["modals", "selectedItem", "setSelectedItem", "toggleModal"],
      takeMutation e.naming .update, "const [item, setItem] = useState<" ++ e.naming.interfaceName
        ++ " | null>(selectedItem);", takeErrors], IsStatement s := by
    simp only [List.forall_mem_cons]
    exact ⟨isStatement_takeFromStore h (by decide), isStatement_takeMutation h .update, hstate,
      .ofList (by decide), List.forall_mem_nil _⟩
  have hclose : ∀ s ∈ ["setErrors([]);", "setSelectedItem(null);"], IsStatement s := by
    rw [List.forall_mem_cons, List.forall_mem_singleton]
    exact ⟨.ofList (by decide), .ofList (by decide)⟩
  have hargument : OneLine (object editArgument) := by
    refine .inBraces ?_
    rw [editArgument, List.map_cons, List.map_singleton, List.forall_mem_cons,
      List.forall_mem_singleton]
    exact ⟨.append (.ofList (by decide)) (.ofList (by decide)),
      .append (.append (.ofList (by decide)) (.ofList (by decide))) (.ofList (by decide))⟩
  refine .file ?_
  simp only [editDialog, List.forall_mem_append, List.forall_mem_cons, List.not_mem_nil,
    false_imp_iff, implies_true, and_true]
  refine ⟨AreMarkup.clientDirective, ⟨⟨.reactImport (by decide), areMarkup_storeImport h,
    areMarkup_operationImport h .update, .dataImport ?_⟩, areMarkup_pickerImports e⟩,
    .errorMessage, .main (.ofList (by decide)) (.ofList (by decide)) ?_⟩
  · rw [List.forall_mem_cons, List.forall_mem_singleton]
    exact ⟨h.oneLine_interfaceName, h.oneLine_validateFn⟩
  · simp only [List.forall_mem_cons]
    exact ⟨.code hstart, .block (.ofList (by decide)) (.statement (.ofList (by decide)))
      (.ofList (by decide)), .statement (.ofList (by decide)),
      .closeFunction (.ofList (by decide)) hclose,
      areMarkup_submitFunction h .update (.ofList (by decide)) hargument,
      .dialog _ _ ((AreMarkup.errorList.append hinputs).append (areMarkup_submitButtons _ _)),
      List.forall_mem_nil _⟩

theorem areMarkup_bulkEditDialog : AreMarkup (bulkEditDialog e).lines := by
  have hstate : IsStatement ("const [rows, setRows] = useState<" ++ e.naming.interfaceName
      ++ "[]>(bulkData);") :=
    (IsStatement.append (.ofList (by decide)) h.oneLine_interfaceName).append (.ofList (by decide))
  have hstart : ∀ s ∈ [takeSelection e.naming, takeMutation e.naming .bulkUpdate,
      "const [rows, setRows] = useState<" ++ e.naming.interfaceName ++ "[]>(bulkData);",
      takeErrors], IsStatement s := by
    simp only [List.forall_mem_cons]
    exact ⟨isStatement_takeFromStore h (by decide), isStatement_takeMutation h .bulkUpdate, hstate,
      .ofList (by decide), List.forall_mem_nil _⟩
  have hclose : ∀ s ∈ ["setErrors([]);"], IsStatement s :=
    List.forall_mem_singleton.mpr (.ofList (by decide))
  have hupdate : IsStatement ("const updateRow = (index: number, key: keyof "
      ++ e.naming.interfaceName ++ ", value: unknown) =>") :=
    (IsStatement.append (.ofList (by decide)) h.oneLine_interfaceName).append (.ofList (by decide))
  refine .file ?_
  simp only [bulkEditDialog, List.forall_mem_append, List.forall_mem_cons, List.not_mem_nil,
    false_imp_iff, implies_true, and_true]
  refine ⟨AreMarkup.clientDirective, ⟨⟨.reactImport (by decide), areMarkup_storeImport h,
    areMarkup_operationImport h .bulkUpdate, .dataImport ?_⟩, areMarkup_pickerImports e⟩,
    .errorMessage, .main (.ofList (by decide)) (.ofList (by decide)) ?_⟩
  · exact List.forall_mem_singleton.mpr h.oneLine_interfaceName
  · simp only [List.forall_mem_cons]
    exact ⟨.code hstart, .block (.ofList (by decide)) (.statement (.ofList (by decide)))
      (.ofList (by decide)), .statement (.ofList (by decide)),
      .closeFunction (.ofList (by decide)) hclose,
      .append (.line hupdate) (.nest (.statement (.ofList (by decide)))),
      areMarkup_bulkSubmitFunction h (.ofList (by decide)),
      .dialog _ _ ((AreMarkup.errorList.append (areMarkup_bulkEditTable hkeys)).append
        (areMarkup_bulkButtons (isExpression_ofList (by decide) (by decide)) _ _)),
      List.forall_mem_nil _⟩

theorem areMarkup_bulkUpdateDialog : AreMarkup (bulkUpdateDialog e).lines := by
  have hinputs : AreMarkup (chosenInput e) := .flatMap fun f hf =>
    .onlyIf (.append (.ofList (by decide)) (oneLine_literal f.name))
      (areMarkup_fieldInput (hkeys f hf) (by decide) (by decide) (by decide))
  have hnote : AreMarkup [selectionNote e.naming ""] :=
    areMarkup_selectionNote h (.ofList (by decide))
  have hstate : IsStatement ("const [field, setField] = useState<keyof " ++ e.naming.interfaceName
      ++ " | ''>('');") :=
    (IsStatement.append (.ofList (by decide)) h.oneLine_interfaceName).append (.ofList (by decide))
  have hstart : ∀ s ∈ [takeSelection e.naming, takeMutation e.naming .bulkUpdate,
      "const [field, setField] = useState<keyof " ++ e.naming.interfaceName ++ " | ''>('');",
      takeDraft e.naming, takeErrors], IsStatement s := by
    simp only [List.forall_mem_cons]
    exact ⟨isStatement_takeFromStore h (by decide), isStatement_takeMutation h .bulkUpdate, hstate,
      isStatement_takeDraft h, .ofList (by decide), List.forall_mem_nil _⟩
  have hclose : ∀ s ∈ ["setErrors([]);", "setField('');", resetDraft e.naming], IsStatement s := by
    simp only [List.forall_mem_cons]
    exact ⟨.ofList (by decide), .ofList (by decide), isStatement_resetDraft h,
      List.forall_mem_nil _⟩
  refine .file ?_
  simp only [bulkUpdateDialog, List.forall_mem_cons, List.not_mem_nil, false_imp_iff, implies_true,
    and_true]
  refine ⟨AreMarkup.clientDirective, areMarkup_draftImports h, .errorMessage,
    .main (.ofList (by decide)) (.ofList (by decide)) ?_⟩
  simp only [List.forall_mem_cons]
  exact ⟨.code hstart, .statement (.ofList (by decide)),
    .closeFunction (.ofList (by decide)) hclose, areMarkup_guardedSubmit (.ofList (by decide)) _,
    areMarkup_bulkSubmitFunction h (.append (.ofList (by decide)) (.ofList (by decide))),
    .dialog _ _ ((((AreMarkup.errorList.append hnote).append (areMarkup_fieldChoice h)).append
      hinputs).append (areMarkup_bulkButtons (isExpression_ofList (by decide) (by decide)) _ _)),
    List.forall_mem_nil _⟩

theorem areMarkup_bulkDynamicUpdateDialog : AreMarkup (bulkDynamicUpdateDialog e).lines := by
  have hinputs : AreMarkup (e.fields.flatMap tickedInput) := .flatMap fun f hf =>
    areMarkup_tickedInput (hkeys f hf)
  have hnote : AreMarkup [selectionNote e.naming " Tick the fields to change."] :=
    areMarkup_selectionNote h (.ofList (by decide))
  have htype : AreMarkup (Declaration.type false "Enabled" ("Partial<Record<keyof "
      ++ e.naming.interfaceName ++ ", boolean>>")).lines := by
    have hrecord : OneLine ("Partial<Record<keyof " ++ e.naming.interfaceName ++ ", boolean>>") :=
      ((OneLine.ofList (by decide)).append h.oneLine_interfaceName).append (.ofList (by decide))
    have hword : Declaration.exportWord false ++ "type " = "type " := rfl
    rw [Declaration.lines, hword]
    exact .line ((((IsStatement.append (.ofList (by decide)) (.ofList (by decide))).append
      (.ofList (by decide))).append hrecord).append (.ofList (by decide)))
  have htoggle : IsStatement ("const toggleField = (key: keyof " ++ e.naming.interfaceName
      ++ r") => setEnabled({ ...enabled, [key]: !enabled[key] });") :=
    (IsStatement.append (.ofList (by decide)) h.oneLine_interfaceName).append (.ofList (by decide))
  have hstart : ∀ s ∈ [takeSelection e.naming, takeMutation e.naming .bulkUpdate,
      r"const [enabled, setEnabled] = useState<Enabled>({});", takeDraft e.naming, takeErrors],
      IsStatement s := by
    simp only [List.forall_mem_cons]
    exact ⟨isStatement_takeFromStore h (by decide), isStatement_takeMutation h .bulkUpdate,
      .ofList (by decide), isStatement_takeDraft h, .ofList (by decide), List.forall_mem_nil _⟩
  have hclose : ∀ s ∈ ["setErrors([]);", r"setEnabled({});", resetDraft e.naming],
      IsStatement s := by
    simp only [List.forall_mem_cons]
    exact ⟨.ofList (by decide), .ofList (by decide), isStatement_resetDraft h,
      List.forall_mem_nil _⟩
  refine .file ?_
  simp only [bulkDynamicUpdateDialog, List.forall_mem_cons, List.not_mem_nil, false_imp_iff,
    implies_true, and_true]
  refine ⟨AreMarkup.clientDirective, areMarkup_draftImports h, .errorMessage, htype,
    .main (.ofList (by decide)) (.ofList (by decide)) ?_⟩
  simp only [List.forall_mem_cons]
  exact ⟨.code hstart, .statement (.ofList (by decide)),
    .closeFunction (.ofList (by decide)) hclose, .statement htoggle, areMarkup_tickedValues h,
    areMarkup_guardedSubmit (.ofList (by decide)) _,
    areMarkup_bulkSubmitFunction h (.append (.ofList (by decide)) (.ofList (by decide))),
    .dialog _ _ (((AreMarkup.errorList.append hnote).append hinputs).append
      (areMarkup_bulkButtons (isExpression_ofList (by decide) (by decide)) _ _)),
    List.forall_mem_nil _⟩

end

/-! ## Tags in the text of a dialog -/

/-- Whether names can stand in code and in ids as they are. -/
structure HasPlainNames (e : Entity) : Prop where
  naming : e.naming.OfParts
  keys : ∀ f ∈ e.fields, HasPlainKey f

/-- The parts whose elements have ids. -/
def formParts : List Part := editorParts ++ [.filter]

theorem areMarkup_of_mem_formParts {e : Entity} (h : HasPlainNames e) {q : Part}
    (hq : q ∈ formParts) {path : Path} {m : File} (hm : q.single? e = some (path, .source m)) :
    AreMarkup m.lines := by
  cases q with
  | add =>
    obtain rfl := source_eq rfl hm
    exact areMarkup_addDialog h.naming h.keys
  | edit =>
    obtain rfl := source_eq rfl hm
    exact areMarkup_editDialog h.naming h.keys
  | bulkEdit =>
    obtain rfl := source_eq rfl hm
    exact areMarkup_bulkEditDialog h.naming h.keys
  | bulkUpdate =>
    obtain rfl := source_eq rfl hm
    exact areMarkup_bulkUpdateDialog h.naming h.keys
  | bulkDynamicUpdate =>
    obtain rfl := source_eq rfl hm
    exact areMarkup_bulkDynamicUpdateDialog h.naming h.keys
  | filter =>
    obtain rfl := source_eq rfl hm
    exact areMarkup_filterDialog h.naming
  | _ => simp [formParts, editorParts] at hq

/-- The elements whose tags begin a line of the text of a file. -/
def SliceFile.tags (f : SliceFile) : List Element := tagsIn f.content.text

/-- **The tags in the text of a dialog with input elements are those of its elements.** -/
theorem exists_module_of_mem_formParts {e : Entity} (h : HasPlainNames e) {f : SliceFile}
    (hf : f ∈ files e) (hpart : f.part ∈ formParts) : ∃ m, f.content = .source m ∧
      f.part.single? e = some (f.path, .source m) ∧ f.tags = m.elements := by
  have hsingle := single?_of_mem_files hf (ne_of_mem_of_not_mem hpart (by decide))
  obtain ⟨m, hm⟩ := exists_source_of_single? (ne_of_mem_of_not_mem hpart (by decide)) hsingle
  rw [hm] at hsingle
  refine ⟨m, hm, hsingle, ?_⟩
  rw [SliceFile.tags, hm]
  exact tagsIn_text (areMarkup_of_mem_formParts h hpart hsingle)

end EntitySlice.Slice

namespace EntitySlice

open EntitySlice.Slice

theorem hasPlainNames_of_plan {keys : NamingKeys} {text : String} {p : Plan}
    (h : plan keys text = .ok p) : HasPlainNames p.entity := by
  obtain ⟨s, -, hfields, hnames⟩ := fields_of_plan h
  refine ⟨hnames, fun f hf => ?_⟩
  rw [hfields] at hf
  exact isKeyChar_of_mem_localKey hf

end EntitySlice
