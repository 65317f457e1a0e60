import EntitySlice.Proofs.Slice.DialogLines
import EntitySlice.Proofs.Source.Labels

/-!
# Ids in the dialogs

The id of the element for a field is made from the key of the field, which no other field has, so
the ids in the tags of a dialog differ. There is one more id in the dialog that sets one field of
many records: that of the choice of the field, which looks like an id for a field with the key
`field` (`plan_labelled`).
-/

namespace EntitySlice.Slice

open EntitySlice.Number EntitySlice.Source

/-! ## Elements for fields -/

@[simp] theorem get?_id_inputElement (f : Field) (value : String) (store : String → String)
    (id : AttributeValue) : (inputElement f value store id).get? "id" = some id := by
  unfold inputElement
  split
  · rfl
  · dsimp only
    split <;> rfl

@[simp] theorem get?_htmlFor_inputElement (f : Field) (value : String) (store : String → String)
    (id : AttributeValue) : (inputElement f value store id).get? "htmlFor" = none := by
  unfold inputElement optionsAttribute
  split
  · split <;> simp [Element.get?, attrCode, onChange]
  · dsimp only
    split <;> simp [Element.get?, attrCode, attr, classes, onInput, onChange]

theorem isControl_inputElement (f : Field) (value : String) (store : String → String)
    (id : AttributeValue) : (inputElement f value store id).isControl = true := by
  unfold inputElement Element.isControl
  split
  · next p _ => simp [isComponentTag_component p]
  · dsimp only
    split <;> simp

@[simp] theorem isNamed_inputElement (f : Field) (value : String) (store : String → String)
    (id : AttributeValue) : (inputElement f value store id).isNamed = true := by
  unfold inputElement
  split
  · simp
  · dsimp only
    split <;> simp

@[simp] theorem isNamed_labelElement (id : String) : (labelElement id).isNamed = true := by
  simp [labelElement, attr]

theorem isLabelFor_labelElement (id : String) : (labelElement id).IsLabelFor id :=
  ⟨rfl, rfl⟩

/-! ## Named elements of the dialogs -/

/-- The elements of a module that have an id or are labels. -/
def namedElements (m : File) : List Element := m.elements.filter Element.isNamed

/-- The element for a field of `state`, which `setter` changes, with its id before it. -/
def stateInput (state setter component : String) (f : Field) : String × Element :=
  let id := elementId component f
  (id, inputElement f (member state f.name) (storeField setter state f) (.text id))

/-- The elements of the dialog that sets one field, with their ids before them. -/
def bulkUpdateInputs (e : Entity) : List (String × Element) :=
  (fieldChoiceId, ⟨"select", [attr "id" fieldChoiceId, classes inputStyle,
    attrCode "value" "field",
    onChange ("(e) => setField(e.target.value as keyof " ++ e.naming.interfaceName ++ ")")]⟩)
    :: e.fields.map (stateInput "draft" "setDraft" "bulk-update")

/-- The element for one end of a span of time, with its id before it. -/
def endInput (id value setter : String) : String × Element :=
  (id, ⟨"input", [attr "id" id, attr "type" "date", classes inputStyle, attrCode "value" value,
    onChange ("(e) => " ++ setter ++ "(e.target.value)")]⟩)

/-- The elements of the dialog for a span of time, with their ids before them. -/
def filterInputs : List (String × Element) :=
  [endInput "filter-start" "start" "setStart", endInput "filter-end" "end" "setEnd"]

/-- The element for a field of one of many records, which has an id for each of them. -/
def rowInput (f : Field) : Element :=
  inputElement f (member "row" f.name) (updateRow f) (.numbered (elementId "bulk-edit" f))

theorem takesInput_stateInput (state setter component : String) (f : Field) :
    (stateInput state setter component f).2.TakesInput (stateInput state setter component f).1 where
  isControl := isControl_inputElement f _ _ _
  noLabel := get?_htmlFor_inputElement f _ _ _
  hasId := get?_id_inputElement f _ _ _

theorem takesInput_stateInputs (state setter component : String) (fs : List Field) :
    ∀ p ∈ fs.map (stateInput state setter component), p.2.TakesInput p.1 := by
  rw [List.forall_mem_map]
  exact fun f _ => takesInput_stateInput state setter component f

theorem takesInput_bulkUpdateInputs (e : Entity) :
    ∀ p ∈ bulkUpdateInputs e, p.2.TakesInput p.1 := by
  rw [bulkUpdateInputs, List.forall_mem_cons]
  exact ⟨⟨rfl, rfl, rfl⟩, takesInput_stateInputs _ _ _ _⟩

theorem takesInput_filterInputs : ∀ p ∈ filterInputs, p.2.TakesInput p.1 := by
  rw [filterInputs, List.forall_mem_cons, List.forall_mem_singleton]
  exact ⟨⟨rfl, rfl, rfl⟩, ⟨rfl, rfl, rfl⟩⟩

section Dialogs

attribute [local simp] List.filterMap_cons List.filter_flatMap List.flatMap_map Declaration.lines
  Definition.lines elementsOf_flatMap elementsOf_map dialog division button busyButton closeButton
  buttonRow paragraph paragraphElement onlyIf forEach closeFunction asyncFunction tryBlock
  errorMessage errorList fieldInput attr attrCode classes onClick onChange stateInput behindLabels

variable (e : Entity)

theorem namedElements_addDialog : namedElements (addDialog e) =
    behindLabels labelElement (e.fields.map (stateInput "newItem" "setNewItem" "add")) := by
  rw [namedElements, File.elements_eq, File.declarations, File.items]
  simp [addDialog, addInputs, submitFunction, submitButtons]

theorem namedElements_editDialog : namedElements (editDialog e) =
    behindLabels labelElement (e.fields.map (stateInput "item" "setItem" "edit")) := by
  rw [namedElements, File.elements_eq, File.declarations, File.items]
  simp [editDialog, editInputs, submitFunction, submitButtons]

theorem namedElements_bulkEditDialog :
    namedElements (bulkEditDialog e) = e.fields.map rowInput := by
  have hnone : (e.fields.flatMap fun _ => ([] : List Element)) = [] := by simp
  rw [namedElements, File.elements_eq, File.declarations, File.items]
  simp [bulkEditDialog, bulkEditTable, bulkEditCell, bulkSubmitFunction, bulkButtons, hnone,
    rowInput, List.map_eq_flatMap]

theorem namedElements_bulkUpdateDialog :
    namedElements (bulkUpdateDialog e) = behindLabels labelElement (bulkUpdateInputs e) := by
  rw [namedElements, File.elements_eq, File.declarations, File.items]
  simp [bulkUpdateDialog, draftImports, guardedSubmit, chosenInput, fieldChoice, bulkUpdateInputs,
    bulkSubmitFunction, bulkButtons, selectionNote]

theorem namedElements_bulkDynamicUpdateDialog : namedElements (bulkDynamicUpdateDialog e) =
    e.fields.map fun f => (stateInput "draft" "setDraft" "bulk-dynamic" f).2 := by
  rw [namedElements, File.elements_eq, File.declarations, File.items]
  simp [bulkDynamicUpdateDialog, draftImports, tickedInput, tickedValues, guardedSubmit,
    bulkSubmitFunction, bulkButtons, selectionNote, List.map_eq_flatMap]

theorem namedElements_filterDialog :
    namedElements (filterDialog e) = behindLabels labelElement filterInputs := by
  rw [namedElements, File.elements_eq, File.declarations, File.items]
  simp [filterDialog, dateInput, spanFunction, paragraphIf, filterInputs, endInput]

end Dialogs

/-! ## Ids made from keys -/

/-- Whether the keys of fields are what the keys of an entity are. -/
structure KeysApart (fs : List Field) : Prop where
  nodup : (fs.map Field.localKey).Nodup
  hyphen : ∀ f ∈ fs, '-' ∉ f.localKey.toList

theorem keysApart_ofSpecs (specs : List FieldSpec) : KeysApart (Field.ofSpecs specs) where
  nodup := nodup_localKeys specs
  hyphen := fun _ hf hc => absurd (isKeyChar_of_mem_localKey hf _ hc) (by decide)

theorem elementId_eq_iff {component key : String} {f : Field} :
    elementId component f = component ++ "-" ++ key ↔ f.localKey = key :=
  String.append_right_inj _

theorem nodup_elementIds {fs : List Field} (h : KeysApart fs) (component : String) :
    (fs.map (elementId component)).Nodup := by
  have hmap : fs.map (elementId component) =
      (fs.map Field.localKey).map (component ++ "-" ++ ·) := by
    rw [List.map_map]
    rfl
  rw [hmap]
  exact h.nodup.map fun _ _ => (String.append_right_inj _).mp

/-- A hyphen ends the key, so the id tells the key and the row. -/
theorem numberedId_inj {component : String} {f g : Field} (hf : '-' ∉ f.localKey.toList) {i j : Nat}
    (h : elementId component f ++ "-" ++ natText i = elementId component g ++ "-" ++ natText j) :
    f.localKey = g.localKey ∧ i = j := by
  simp only [elementId, String.append_assoc] at h
  have hlist := congrArg String.toList <|
    (String.append_right_inj _).mp ((String.append_right_inj _).mp h)
  simp only [String.toList_append] at hlist
  have hdigits : '-' ∉ (natText i).toList := fun hc =>
    absurd (isDigit_of_mem_natText hc) (by decide)
  obtain ⟨hkey, -, hnumber⟩ := (List.append_cons_inj_of_notMem hf hdigits).mp hlist
  exact ⟨String.toList_injective hkey, natText_injective (String.toList_injective hnumber)⟩

theorem nodup_numberedIds {fs : List Field} (h : KeysApart fs) (component : String) (rows : Nat) :
    (fs.flatMap fun f => (List.range rows).map fun i =>
      elementId component f ++ "-" ++ natText i).Nodup := by
  rw [List.nodup_flatMap]
  constructor
  · intro f hf
    exact List.nodup_range.map fun i j hij => (numberedId_inj (h.hyphen f hf) hij).2
  · have hpairs : fs.Pairwise fun f g => f.localKey ≠ g.localKey := List.pairwise_map.mp h.nodup
    refine hpairs.imp_of_mem fun {f g} hf _ hne s hs hs' => ?_
    obtain ⟨i, -, rfl⟩ := List.mem_map.mp hs
    obtain ⟨j, -, hj⟩ := List.mem_map.mp hs'
    exact hne (numberedId_inj (h.hyphen f hf) hj.symm).1

/-! ## Labels in the dialogs -/

/-- How the ids of a part are given: by row where there are rows, else as they are. -/
def Part.GivesId (q : Part) (v : AttributeValue) : Prop :=
  match q with
  | .bulkEdit => ∃ stem, v = .numbered stem
  | _ => ∃ s, v = .text s

theorem map_fst_stateInputs (state setter component : String) (fs : List Field) :
    (fs.map (stateInput state setter component)).map Prod.fst = fs.map (elementId component) := by
  rw [List.map_map]
  rfl

theorem labelled_stateInputs {fs : List Field} (h : KeysApart fs)
    (state setter component : String) (rows : Nat) :
    Labelled rows (behindLabels labelElement (fs.map (stateInput state setter component))) := by
  rw [labelled_behindLabels_iff isLabelFor_labelElement (takesInput_stateInputs _ _ _ _),
    map_fst_stateInputs]
  exact nodup_elementIds h component

/-- The choice of the field looks like the element of a field with the key `field`. -/
theorem labelled_bulkUpdateInputs_iff {e : Entity} (h : KeysApart e.fields) (rows : Nat) :
    Labelled rows (behindLabels labelElement (bulkUpdateInputs e)) ↔
      ∀ f ∈ e.fields, f.localKey ≠ "field" := by
  have hchoice : fieldChoiceId = "bulk-update" ++ "-" ++ "field" := rfl
  rw [labelled_behindLabels_iff isLabelFor_labelElement (takesInput_bulkUpdateInputs e),
    bulkUpdateInputs, List.map_cons, map_fst_stateInputs, List.nodup_cons, hchoice]
  constructor
  · rintro ⟨hfree, -⟩ f hf hkey
    exact hfree (elementId_eq_iff.mpr hkey ▸ List.mem_map_of_mem hf)
  · intro hfree
    refine ⟨fun hmem => ?_, nodup_elementIds h _⟩
    obtain ⟨f, hf, hid⟩ := List.mem_map.mp hmem
    exact hfree f hf (elementId_eq_iff.mp hid)

/-- The elements of a dialog that have an id or are labels. -/
def dialogElements (e : Entity) : Part → List Element
  | .add => behindLabels labelElement (e.fields.map (stateInput "newItem" "setNewItem" "add"))
  | .edit => behindLabels labelElement (e.fields.map (stateInput "item" "setItem" "edit"))
  | .bulkEdit => e.fields.map rowInput
  | .bulkUpdate => behindLabels labelElement (bulkUpdateInputs e)
  | .bulkDynamicUpdate => e.fields.map fun f => (stateInput "draft" "setDraft" "bulk-dynamic" f).2
  | .filter => behindLabels labelElement filterInputs
  | _ => []

theorem namedElements_of_mem_formParts {e : Entity} {q : Part} (hq : q ∈ formParts) {path : Path}
    {m : File} (hm : q.single? e = some (path, .source m)) :
    namedElements m = dialogElements e q := by
  cases q with
  | add =>
    obtain rfl := source_eq rfl hm
    exact namedElements_addDialog e
  | edit =>
    obtain rfl := source_eq rfl hm
    exact namedElements_editDialog e
  | bulkEdit =>
    obtain rfl := source_eq rfl hm
    exact namedElements_bulkEditDialog e
  | bulkUpdate =>
    obtain rfl := source_eq rfl hm
    exact namedElements_bulkUpdateDialog e
  | bulkDynamicUpdate =>
    obtain rfl := source_eq rfl hm
    exact namedElements_bulkDynamicUpdateDialog e
  | filter =>
    obtain rfl := source_eq rfl hm
    exact namedElements_filterDialog e
  | _ => simp [formParts, editorParts] at hq

theorem labelled_dialogElements_iff {e : Entity} (h : KeysApart e.fields) (q : Part) (rows : Nat) :
    Labelled rows (dialogElements e q) ↔
      ¬(q = .bulkUpdate ∧ ∃ f ∈ e.fields, f.localKey = "field") := by
  cases q with
  | add | edit => exact iff_of_true (labelled_stateInputs h _ _ _ rows) (by simp)
  | bulkEdit =>
    refine iff_of_true ?_ (by simp)
    rw [dialogElements, labelled_iff_nodup (by simp [rowInput]), List.flatMap_map]
    have hids (f : Field) : (rowInput f).ids rows =
        (List.range rows).map fun i => elementId "bulk-edit" f ++ "-" ++ natText i :=
      Element.ids_of_numbered (get?_id_inputElement _ _ _ _)
    simpa only [hids] using nodup_numberedIds h "bulk-edit" rows
  | bulkUpdate =>
    rw [dialogElements, labelled_bulkUpdateInputs_iff h]
    simp
  | bulkDynamicUpdate =>
    refine iff_of_true ?_ (by simp)
    rw [dialogElements, labelled_iff_nodup (by simp [stateInput]), List.flatMap_map]
    have hids (f : Field) : (stateInput "draft" "setDraft" "bulk-dynamic" f).2.ids rows =
        [elementId "bulk-dynamic" f] := Element.ids_of_text (takesInput_stateInput _ _ _ _).hasId
    simpa only [hids, List.map_eq_flatMap] using nodup_elementIds h "bulk-dynamic"
  | filter =>
    refine iff_of_true ?_ (by simp)
    rw [dialogElements, labelled_behindLabels_iff isLabelFor_labelElement takesInput_filterInputs]
    decide
  | _ => exact iff_of_true ⟨List.nodup_nil, by simp [dialogElements]⟩ (by simp)

/-- These are the tags in the text of the part that have an id or are labels. -/
theorem filter_isNamed_tags {e : Entity} (h : HasPlainNames e) {f : SliceFile} (hf : f ∈ files e)
    (hpart : f.part ∈ formParts) : f.tags.filter Element.isNamed = dialogElements e f.part := by
  obtain ⟨m, -, hsingle, htags⟩ := exists_module_of_mem_formParts h hf hpart
  rw [htags, ← namedElements, namedElements_of_mem_formParts hpart hsingle]

/-- Ids are given by row where there are rows, and as they are elsewhere. -/
theorem givesId_of_mem_dialogElements {e : Entity} {q : Part} {el : Element}
    (hel : el ∈ dialogElements e q) {v : AttributeValue} (hv : el.get? "id" = some v) :
    q.GivesId v := by
  cases q with
  | add | edit =>
    exact exists_text_of_mem_behindLabels isLabelFor_labelElement
      (takesInput_stateInputs _ _ _ _) hel hv
  | bulkEdit =>
    obtain ⟨f, -, rfl⟩ := List.mem_map.mp hel
    exact ⟨_, Option.some.inj (hv.symm.trans (get?_id_inputElement _ _ _ _))⟩
  | bulkUpdate =>
    exact exists_text_of_mem_behindLabels isLabelFor_labelElement
      (takesInput_bulkUpdateInputs e) hel hv
  | bulkDynamicUpdate =>
    obtain ⟨f, -, rfl⟩ := List.mem_map.mp hel
    exact ⟨_, Option.some.inj (hv.symm.trans (takesInput_stateInput _ _ _ _).hasId)⟩
  | filter =>
    exact exists_text_of_mem_behindLabels isLabelFor_labelElement takesInput_filterInputs hel hv
  | _ => simp [dialogElements] at hel

end EntitySlice.Slice

namespace EntitySlice

open EntitySlice.Slice EntitySlice.Source

/-! ## Plans -/

theorem keysApart_of_plan {keys : NamingKeys} {text : String} {p : Plan}
    (h : plan keys text = .ok p) : KeysApart p.entity.fields := by
  obtain ⟨s, n, ns, -, -, he, -⟩ := exists_schema_of_prepare (plan_eq_ok_iff.mp h).1
  rw [he]
  exact keysApart_ofSpecs s.fields

/--
**Ids in a dialog differ, and every label is for one element**, however many rows there are, but for
the dialog that sets one field of many records, if a field has the key `field`.
-/
theorem plan_labelled {keys : NamingKeys} {text : String} {p : Plan}
    (h : plan keys text = .ok p) {f : SliceFile} (hf : f ∈ files p.entity)
    (hpart : f.part ∈ formParts) :
    p.artifacts = (files p.entity).map SliceFile.artifact ∧
      (∃ m, f.content = .source m ∧ f.tags = m.elements) ∧
      (∀ e ∈ f.tags, ∀ v, e.get? "id" = some v → f.part.GivesId v) ∧
      ∀ rows, Labelled rows f.tags ↔
        ¬(f.part = .bulkUpdate ∧ ∃ x ∈ p.entity.fields, x.localKey = "field") := by
  have hplain := hasPlainNames_of_plan h
  have hnamed := filter_isNamed_tags hplain hf hpart
  obtain ⟨m, hm, -, htags⟩ := exists_module_of_mem_formParts hplain hf hpart
  refine ⟨(plan_eq_ok_iff.mp h).2, ⟨m, hm, htags⟩, fun e he v hv => ?_, fun rows => ?_⟩
  · have hid : e.isNamed = true := by
      refine eq_true_of_ne_false fun hno => ?_
      rw [(Element.get?_of_not_isNamed hno).1] at hv
      simp at hv
    have hmem : e ∈ f.tags.filter Element.isNamed := List.mem_filter.mpr ⟨he, hid⟩
    rw [hnamed] at hmem
    exact givesId_of_mem_dialogElements hmem hv
  · rw [← labelled_filter_isNamed, hnamed]
    exact labelled_dialogElements_iff (keysApart_of_plan h) _ rows

/-- A schema with a field whose name begins with a letter that keys do without. -/
def accentedSchema : String :=
  "\x7b\"namingConvention\":\x7b\"Users_1_000___\":\"Posts\",\"users_2_000___\":\"posts\","
    ++ "\"User_3_000___\":\"Post\"\x7d,"
    ++ "\"fields\":[\x7b\"name\":\"éfield\",\"type\":\"STRING\"\x7d]\x7d"

theorem localKeys_accentedSchema :
    ∃ p, plan {} accentedSchema = .ok p ∧ p.entity.fields.map Field.localKey = ["field"] := by
  apply exists_plan_of_chars (fun e => e.fields.map Field.localKey)
  · unfold accentedSchema
    iterate 2 apply toList_append_eq String.toList_ofList
    exact String.toList_ofList
  · decide +kernel

theorem exists_file_of_mem_formParts (e : Entity) {q : Part} (hq : q ∈ formParts) :
    ∃ f ∈ files e, f.part = q := by
  obtain ⟨f, hf, hpart, -⟩ := exists_module_of_part e (ne_of_mem_of_not_mem hq (by decide))
    (ne_of_mem_of_not_mem hq (by decide))
  exact ⟨f, hf, hpart⟩

theorem plan_labelled_accentedSchema :
    ∃ p, plan {} accentedSchema = .ok p ∧ ∃ f ∈ files p.entity, f.part = .add ∧
      ∃ m, f.content = .source m ∧ f.tags = m.elements ∧ Labelled 2 f.tags := by
  obtain ⟨p, hp, -⟩ := localKeys_accentedSchema
  obtain ⟨f, hf, hpart⟩ := exists_file_of_mem_formParts p.entity (q := .add) (by decide)
  obtain ⟨-, ⟨m, hm, htags⟩, -, hlabelled⟩ := plan_labelled hp hf (by rw [hpart]; decide)
  exact ⟨p, hp, f, hf, hpart, m, hm, htags, (hlabelled 2).mpr (by simp [hpart])⟩

/-- **Not all ids in a dialog differ.** -/
theorem exists_ids_not_apart :
    ¬∀ (keys : NamingKeys) (text : String) (p : Plan), plan keys text = .ok p →
      ∀ f ∈ files p.entity, f.part ∈ formParts → ∀ rows, Labelled rows f.tags := by
  intro hall
  obtain ⟨p, hp, hkeys⟩ := localKeys_accentedSchema
  obtain ⟨x, hx, hkey⟩ : ∃ x ∈ p.entity.fields, x.localKey = "field" :=
    List.mem_map.mp (hkeys ▸ List.mem_cons_self)
  obtain ⟨f, hf, hpart⟩ := exists_file_of_mem_formParts p.entity (q := .bulkUpdate) (by decide)
  have hform : f.part ∈ formParts := by
    rw [hpart]
    decide
  have hlabelled := (labelled_filter_isNamed 0 f.tags).mpr (hall {} _ p hp f hf hform 0)
  rw [filter_isNamed_tags (hasPlainNames_of_plan hp) hf hform] at hlabelled
  exact (labelled_dialogElements_iff (keysApart_of_plan hp) _ 0).mp hlabelled
    ⟨hpart, x, hx, hkey⟩

end EntitySlice
