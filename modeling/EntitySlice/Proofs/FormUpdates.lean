import EntitySlice.Proofs.ElementIds
import EntitySlice.Proofs.NewRecords
import EntitySlice.Proofs.Source.RecordUpdates

/-!
# What the input elements change

The element for a field shows a member of a record, and on a change it stores the record with a new
value for the field. The field then has this value and all others have theirs (`plan_stores`), with
one exception: the key in the object expression for a field that is named like the key for what a
record comes from does not make a member. Such a field is in no record, not even in a new one.
-/

namespace EntitySlice

open EntitySlice.Slice EntitySlice.Source

/-! ## Elements -/

/-- Whether an element shows a field of `state` and hands the changed record to `setter`. -/
structure Source.Element.Edits (el : Element) (state setter : String) (f : Field) : Prop where
  shown : el.get? "value" = some (.code (member state f.name)) ∨
    el.get? "checked" = some (.code ("Boolean(" ++ member state f.name ++ ")"))
  stored : ∃ parameter value, el.get? "onChange" =
    some (.code (parameter ++ " => " ++ storeField setter state f value))

namespace Slice

variable {state setter : String} {f : Field}

theorem exists_stored_of_onInput {el : Element} {value : String}
    (h : el.get? "onChange" = some (onInput (storeField setter state f) value).value) :
    ∃ parameter value, el.get? "onChange" =
      some (.code (parameter ++ " => " ++ storeField setter state f value)) := by
  have hparameter : "(e) => " = "(e)" ++ " => " := rfl
  refine ⟨"(e)", value, h.trans ?_⟩
  rw [← hparameter]
  rfl

theorem edits_inputElement (state setter : String) (f : Field) (id : AttributeValue) :
    (inputElement f (member state f.name) (storeField setter state f) id).Edits state setter f := by
  unfold inputElement optionsAttribute
  constructor
  case shown =>
    split
    · split <;> simp [Element.get?, attrCode]
    · dsimp only
      split <;> simp [Element.get?, attrCode, attr, classes]
  case stored =>
    split
    · have hparameter : "(value) => " = "(value)" ++ " => " := rfl
      refine ⟨"(value)", "value", ?_⟩
      rw [← hparameter]
      split <;> simp [Element.get?, attrCode, onChange]
    · dsimp only
      split <;> exact exists_stored_of_onInput rfl

/-! ## Dialogs -/

/-- The variable for the record that a dialog edits with its setter, where there is one record. -/
def editedState? : Part → Option (String × String)
  | .add => some ("newItem", "setNewItem")
  | .edit => some ("item", "setItem")
  | .bulkUpdate | .bulkDynamicUpdate => some ("draft", "setDraft")
  | _ => none

theorem mem_behindLabels {label : String → Element} {ps : List (String × Element)}
    {p : String × Element} (hp : p ∈ ps) : p.2 ∈ behindLabels label ps :=
  List.mem_flatMap.mpr ⟨p, hp, List.mem_cons_of_mem _ (List.mem_singleton_self _)⟩

/-- Each dialog for one record has an element for each field. -/
theorem exists_edits_of_editedState? {e : Entity} {q : Part}
    (hq : editedState? q = some (state, setter)) (hf : f ∈ e.fields) :
    ∃ el ∈ dialogElements e q, el.Edits state setter f := by
  have hedits (component : String) : (stateInput state setter component f).2.Edits state setter f :=
    edits_inputElement state setter f _
  cases q with
  | add =>
    obtain ⟨rfl, rfl⟩ := Prod.mk.inj (Option.some.inj hq)
    exact ⟨_, mem_behindLabels (List.mem_map_of_mem hf), hedits _⟩
  | edit =>
    obtain ⟨rfl, rfl⟩ := Prod.mk.inj (Option.some.inj hq)
    exact ⟨_, mem_behindLabels (List.mem_map_of_mem hf), hedits _⟩
  | bulkUpdate =>
    obtain ⟨rfl, rfl⟩ := Prod.mk.inj (Option.some.inj hq)
    exact ⟨_, mem_behindLabels (List.mem_cons_of_mem _ (List.mem_map_of_mem hf)), hedits _⟩
  | bulkDynamicUpdate =>
    obtain ⟨rfl, rfl⟩ := Prod.mk.inj (Option.some.inj hq)
    exact ⟨_, List.mem_map_of_mem hf, hedits _⟩
  | _ => simp [editedState?] at hq

/-- So has the text of the dialog. -/
theorem exists_dialog_of_editedState? {e : Entity} (h : HasPlainNames e) {q : Part}
    (hq : editedState? q = some (state, setter)) :
    ∃ file ∈ files e, file.part = q ∧ (∃ m, file.content = .source m ∧ file.tags = m.elements) ∧
      ∀ f ∈ e.fields, ∃ el ∈ file.tags, el.Edits state setter f := by
  have hform : q ∈ formParts := by
    cases q <;> simp_all [editedState?, formParts, editorParts]
  obtain ⟨file, hfile, rfl⟩ := exists_file_of_mem_formParts e hform
  obtain ⟨m, hm, -, htags⟩ := exists_module_of_mem_formParts h hfile hform
  refine ⟨file, hfile, rfl, ⟨m, hm, htags⟩, fun f hf => ?_⟩
  obtain ⟨el, hel, hedits⟩ := exists_edits_of_editedState? hq hf
  rw [← filter_isNamed_tags h hfile hform] at hel
  exact ⟨el, (List.mem_filter.mp hel).1, hedits⟩

end Slice

/-! ## Plans -/

/-- Whether the modules of a plan make and change records like this. -/
structure Plan.EditsRecords (p : Plan) : Prop where
  /-- The text of each dialog for one record has a tag for each field, which edits it. -/
  inputs : ∀ q state setter, editedState? q = some (state, setter) →
    ∃ file ∈ files p.entity, file.part = q ∧
      (∃ m, file.content = .source m ∧ file.tags = m.elements) ∧
      ∀ f ∈ p.entity.fields, ∃ el ∈ file.tags, el.Edits state setter f
  /-- A new record is an object expression with the defaults. -/
  newRecord : p.block? .entityData (defaultStart p.entity) r"});" =
    some ((defaultTexts p.entity).map fun t => Line.text ⟨2, .code t⟩)

/--
**What an input element stores is read again, and all else is what it was**, unless the field is
named like the key for what a record comes from: then the record holds what it held before, and no
new record has the field.
-/
theorem plan_stores {keys : NamingKeys} {text : String} {p : Plan} (h : plan keys text = .ok p)
    (inherited : Value → String → Value) :
    p.artifacts = (files p.entity).map SliceFile.artifact ∧ p.EditsRecords ∧
      (∀ f ∈ p.entity.fields, ∀ (s : RecordScope) (state value : String) (r : Record) (v : Value),
        isIdentifier state = true → s.records state = some r → s.values value = some v →
        ∃ r', s.extension? (object (updatedMembers state f value)) = some r' ∧
          (∀ name, (s.assign state r').member? inherited (member state name) =
            some (r'.read inherited name)) ∧
          (f.name ≠ Record.prototypeKey → r.Stored inherited f.name v r') ∧
          (f.name = Record.prototypeKey → r'.own = r.own ∧
            r'.prototype = if v.isObject || v.isNull then v else .prototype)) ∧
      ∀ clock, ∃ r, newRecord? clock p.entity = some r ∧
        ∀ f ∈ p.entity.fields, r.own f.name =
          if f.name = Record.prototypeKey then none
          else some (newValue (clock f.name) f.valueKind) := by
  have hfiles : p.artifacts = (files p.entity).map SliceFile.artifact := (plan_eq_ok_iff.mp h).2
  have hplain := hasPlainNames_of_plan h
  refine ⟨hfiles, ⟨fun q _ _ hq => exists_dialog_of_editedState? hplain hq,
    (makesRecords_of_plan h).newRecord⟩, ?_, fun clock => ?_⟩
  · intro f _ s state value r v hstate hr hv
    have hparts : ∀ c ∈ state.toList, isIdentifierPart c = true := fun c hc =>
      isIdentifierPart_of_mem hstate hc
    refine ⟨r.changed f.name v, s.extension?_object hparts hr f.name hv, fun name => ?_,
      fun hname => r.stored_changed inherited hname, fun hname => ?_⟩
    · exact (s.assign state _).member?_member hparts (if_pos rfl) inherited name
    · rw [hname]
      exact ⟨r.own_changed_prototypeKey, r.prototype_changed_prototypeKey⟩
  · exact ⟨_, newRecord?_eq (isClassified_of_plan h) clock,
      fun f hf => own_newRecord clock (nodup_names_of_plan h) hf⟩

/-- A schema with a field that is named like the key for what a record comes from. -/
def prototypeSchema : String :=
  "\x7b\"namingConvention\":\x7b\"Users_1_000___\":\"Posts\",\"users_2_000___\":\"posts\","
    ++ "\"User_3_000___\":\"Post\"\x7d,"
    ++ "\"fields\":[\x7b\"name\":\"__proto__\",\"type\":\"STRING\"\x7d,"
    ++ "\x7b\"name\":\"title\",\"type\":\"STRING\"\x7d]\x7d"

theorem fieldNames_prototypeSchema :
    ∃ p, plan {} prototypeSchema = .ok p ∧
      p.entity.fields.map Field.name = [Record.prototypeKey, "title"] := by
  apply exists_plan_of_chars (fun e => e.fields.map Field.name)
  · unfold prototypeSchema
    iterate 3 apply toList_append_eq String.toList_ofList
    exact String.toList_ofList
  · decide +kernel

/-- A form with an empty record and a text that was entered. -/
def emptyForm (s : String) : RecordScope where
  records _ := some .empty
  values _ := some (.text s)

/-- Objects that pass nothing on to those that come from them. -/
def passesNothing (_ : Value) (_ : String) : Value := .undefined

/-- The title is stored, and the other field is not. -/
theorem plan_stores_prototypeSchema :
    ∃ p, plan {} prototypeSchema = .ok p ∧
      ∃ f ∈ p.entity.fields, f.name = "title" ∧
      ∃ g ∈ p.entity.fields, g.name = Record.prototypeKey ∧
      (∃ r, (emptyForm "x").extension? (object (updatedMembers "item" f "value")) = some r ∧
        Record.empty.Stored passesNothing "title" (.text "x") r) ∧
      ∃ r, (emptyForm "x").extension? (object (updatedMembers "item" g "value")) = some r ∧
        r.own Record.prototypeKey = none := by
  obtain ⟨p, hp, hnames⟩ := fieldNames_prototypeSchema
  have hmem : ∀ n ∈ [Record.prototypeKey, "title"], ∃ f ∈ p.entity.fields, f.name = n := by
    intro n hn
    exact List.mem_map.mp (hnames ▸ hn)
  obtain ⟨f, hf, hfn⟩ := hmem "title" (by simp)
  obtain ⟨g, hg, hgn⟩ := hmem Record.prototypeKey (by simp)
  obtain ⟨-, -, hstores, -⟩ := plan_stores hp passesNothing
  obtain ⟨r, hr, -, hstored, -⟩ :=
    hstores f hf (emptyForm "x") "item" "value" .empty (.text "x") (by decide) rfl rfl
  obtain ⟨r', hr', -, -, hkept⟩ :=
    hstores g hg (emptyForm "x") "item" "value" .empty (.text "x") (by decide) rfl rfl
  refine ⟨p, hp, f, hf, hfn, g, hg, hgn, ⟨r, hr, ?_⟩, r', hr', ?_⟩
  · rw [hfn] at hstored
    exact hstored (by decide)
  · rw [(hkept hgn).1]
    rfl

/-- **Not every field is stored**, and not every field is in a new record. -/
theorem exists_field_not_stored :
    ¬∀ (keys : NamingKeys) (text : String) (p : Plan), plan keys text = .ok p →
      (∀ f ∈ p.entity.fields, ∀ (s : RecordScope) (state value : String) (r : Record) (v : Value)
        (inherited : Value → String → Value), isIdentifier state = true →
        s.records state = some r → r.prototype = .prototype → s.values value = some v →
        ∃ r', s.extension? (object (updatedMembers state f value)) = some r' ∧
          r'.own f.name = some v ∧
          (s.assign state r').member? inherited (member state f.name) = some v ∧
          ∀ g ∈ p.entity.fields, g.name ≠ f.name →
            (s.assign state r').member? inherited (member state g.name) =
              s.member? inherited (member state g.name)) ∧
      ∀ clock, ∃ r, newRecord? clock p.entity = some r ∧
        ∀ f ∈ p.entity.fields, r.own f.name ≠ none := by
  intro hall
  obtain ⟨p, hp, hnames⟩ := fieldNames_prototypeSchema
  obtain ⟨f, hf, hname⟩ : ∃ f ∈ p.entity.fields, f.name = Record.prototypeKey :=
    List.mem_map.mp (hnames ▸ List.mem_cons_self)
  obtain ⟨r, hr, hown, -⟩ := (hall {} prototypeSchema p hp).1 f hf (emptyForm "x") "item" "value"
    .empty (.text "x") passesNothing (by decide) rfl rfl rfl
  have hchanged : (emptyForm "x").extension? (object (updatedMembers "item" f "value")) =
      some (Record.empty.changed f.name (.text "x")) :=
    (emptyForm "x").extension?_object (x := "item") (fun _ => isIdentifierPart_of_mem rfl) rfl
      f.name rfl
  obtain rfl := Option.some.inj (hchanged.symm.trans hr)
  rw [hname, Record.own_changed_prototypeKey] at hown
  simp [Record.empty, Properties.empty] at hown

end EntitySlice
