import EntitySlice.Proofs.Coverage
import EntitySlice.Proofs.Slice.Checks
import EntitySlice.Proofs.Source.Records

/-!
# New records

A new record has the default of each field, and where no field must have a value it can be sent and
stored as it is, with two exceptions (`plan_newRecord`). A text that is to be one of some options is
empty in a new record: the checks let it pass, the database takes it only if it is an option. And a
field that is named like the key for what a record comes from gets its value only if that is an
object; otherwise all its checks complain.
-/

namespace EntitySlice.Slice

open EntitySlice.Source

/-- The new record of an entity, when the clock shows `clock name` while a member is made. -/
def newRecord? (clock : String → Moment × Moment) (e : Entity) : Option Record :=
  Record.ofMembers? (defaultValue? clock) (defaultMembers e)

/-- What the checks of all fields say about a record. -/
def recordComplaints? (r : Record) (fields : List Field) : Option (List String) :=
  (fields.mapM fun f => (r.member? f.name).bind (complaints? · f)).map List.flatten

/-- Whether the values of a kind are objects. -/
def hasObjects : ValueKind → Bool
  | .date | .dateRange | .timeRange | .stringList => true
  | .string | .integer | .float | .boolean | .time => false

/-- Whether a new record gives its new value for the field. -/
def hasNewValue (f : Field) : Bool :=
  f.name ≠ Record.prototypeKey || hasObjects f.valueKind

theorem isObject_newValue (now : Moment × Moment) (k : ValueKind) :
    (newValue now k).isObject = hasObjects k := by
  cases k <;> rfl

section

variable {e : Entity} (hc : ∀ f ∈ e.fields, IsClassified f) (clock : String → Moment × Moment)

/-- The members of a new record with their values. -/
def newMembers (clock : String → Moment × Moment) (e : Entity) : List (String × Value) :=
  e.fields.map fun f => (f.name, newValue (clock f.name) f.valueKind)

include hc

/-- **A new record has a member for each field**, with the new value of its kind. -/
theorem newRecord?_eq :
    newRecord? clock e = some (Record.empty.putAll (newMembers clock e)) := by
  refine Record.ofMembers?_map fun f hf => ?_
  have hdefault : f.classification.default = .ofKind f.valueKind := by
    rw [Field.valueKind, hc f hf]
    rfl
  rw [hdefault, defaultValue?_expression]

end

section

variable {e : Entity} (clock : String → Moment × Moment) (hnodup : (e.fields.map Field.name).Nodup)

include hnodup

theorem nodup_newMembers : ((newMembers clock e).map Prod.fst).Nodup := by
  rw [newMembers, List.map_map]
  exact hnodup

variable {f : Field} (hf : f ∈ e.fields)

include hf

theorem own_newRecord : (Record.empty.putAll (newMembers clock e)).own f.name =
    if f.name = Record.prototypeKey then none else some (newValue (clock f.name) f.valueKind) := by
  split
  · next h =>
    rw [h]
    exact Record.own_putAll_prototypeKey _ _
  · next h =>
    exact Record.own_putAll_of_mem _ (nodup_newMembers clock hnodup) (List.mem_map_of_mem hf) h

theorem member?_newRecord : (Record.empty.putAll (newMembers clock e)).member? f.name =
    some (if hasNewValue f then newValue (clock f.name) f.valueKind else .prototype) := by
  have hmem : (f.name, newValue (clock f.name) f.valueKind) ∈ newMembers clock e :=
    List.mem_map_of_mem hf
  rw [Record.member?, own_newRecord clock hnodup hf]
  by_cases h : f.name = Record.prototypeKey
  · rw [h] at hmem ⊢
    rw [Record.prototype_putAll_of_mem _ (nodup_newMembers clock hnodup) hmem, isObject_newValue]
    simp [hasNewValue, h, Record.empty]
  · simp [hasNewValue, h]

end

/-! ## The modules -/

/-- The statements that check a field of a record. -/
def checkStatements (f : Field) : List String :=
  (checks f).map fun c =>
    "if (" ++ c.expression.source (member "item" f.name) ++ ") errors.push(" ++ literal c.message
      ++ ");"

/-- The statements of the function that checks a record. -/
def checkTexts (e : Entity) : List String :=
  ["const errors: string[] = [];"] ++ e.fields.flatMap checkStatements ++ ["return errors;"]

/-- The function that checks a record. -/
def checkFunction (e : Entity) : List Line :=
  Line.code ("export const " ++ e.naming.validateFn
      ++ (" = (item: Partial<" ++ e.naming.interfaceName ++ r">): string[] => {")) ::
    ((checkTexts e).map (fun t => ⟨2, .code t⟩) ++ [Line.code r"};"])

/-- It is the last declaration of its module. -/
theorem lastDeclaration_eq (e : Entity) : lastDeclaration e = checkFunction e := by
  have hlines : checkLines "item" = fun f => (checkStatements f).map Line.code := by
    funext f
    simp [checkLines, checkStatements, Check.statement, Check.condition_eq]
  have hbody : code ["const errors: string[] = [];"] ++ validationLines e
      ++ code ["return errors;"] = (checkTexts e).map Line.code := by
    simp [checkTexts, validationLines, hlines, code, List.map_flatMap]
  have hfunction := lines_const true e.naming.validateFn
    (" = (item: Partial<" ++ e.naming.interfaceName ++ r">): string[] => {") r"};" (checkTexts e)
  rw [← hbody] at hfunction
  exact (List.append_nil _).trans hfunction

theorem lines_checkFunction (e : Entity) :
    ∃ before, (entityData e).lines = before ++ checkFunction e := by
  refine ⟨[Line.code (entityComment e)] ++ Line.code (interfaceStart e) ::
    ((propertyTexts e).map (fun t => ⟨2, .code t⟩) ++ Line.code "\x7d" :: Line.blank ::
      Line.code (defaultStart e) :: ((defaultTexts e).map (fun t => ⟨2, .code t⟩) ++
        [Line.code r"});", Line.blank])), ?_⟩
  rw [lines_entityData, lastDeclaration_eq]
  simp

end EntitySlice.Slice

namespace EntitySlice

open EntitySlice.Source EntitySlice.Slice

/-! ## Plans -/

/-- Whether the modules of a plan make, check and store records like this. -/
structure Plan.MakesRecords (p : Plan) : Prop where
  /-- A new record is an object expression with the defaults. -/
  newRecord : p.block? .entityData (defaultStart p.entity) r"});" =
    some ((defaultTexts p.entity).map fun t => Line.text ⟨2, .code t⟩)
  /-- The function that checks a record complains under these conditions alone. -/
  checks : ∃ f ∈ files p.entity, f.part = .entityData ∧
    ∃ m before, f.content = .source m ∧ m.lines = before ++ checkFunction p.entity
  /-- The database has these constraints for each field. -/
  constraints : p.block? .model "  \x7b" r"  }," =
    some ((modelTexts p.entity).map fun t => Line.text ⟨4, .code t⟩)

section

variable {keys : NamingKeys} {text : String} {p : Plan} (h : plan keys text = .ok p)

include h

theorem isClassified_of_plan : ∀ f ∈ p.entity.fields, IsClassified f := by
  obtain ⟨s, -, hfields, -⟩ := fields_of_plan h
  rw [hfields]
  exact classification_ofSpecs

theorem nodup_names_of_plan : (p.entity.fields.map Field.name).Nodup := by
  obtain ⟨s, hs, hfields, -⟩ := fields_of_plan h
  rw [hfields]
  exact map_ofSpecs (fun s _ => s.name) s.fields ▸ (fields_of_parse hs).2.1

theorem makesRecords_of_plan : p.MakesRecords := by
  obtain ⟨s, -, -, hnames⟩ := fields_of_plan h
  obtain ⟨before, hbefore⟩ := lines_checkFunction p.entity
  constructor
  case newRecord =>
    exact block?_of_plan h (q := .entityData) rfl
      (linesBetween_default hnames (isClassified_of_plan h))
  case checks =>
    exact ⟨_, mem_files_of_singleFile? (p := .entityData) rfl, rfl, _, before, rfl, hbefore⟩
  case constraints => exact block?_of_plan h (q := .model) rfl (linesBetween_model hnames)

/-- The database takes the new value of a field under all constraints but a choice of options. -/
theorem admits_newRecord_iff (clock : String → Moment × Moment) {f : Field}
    (hf : f ∈ p.entity.fields) (hr : f.isRequired = false) {c : Constraint}
    (hmem : c ∈ constraints f) :
    c.admits (((Record.empty.putAll (newMembers clock p.entity)).own f.name).getD .undefined) =
      true ↔ ∀ options, c = .oneOf options → f.name ≠ Record.prototypeKey → "" ∈ options := by
  have hconstraint := optionalConstraint_of_mem_constraints (isClassified_of_plan h f hf) hr hmem
  rw [own_newRecord clock (nodup_names_of_plan h) hf]
  split
  · next hname => simp [hconstraint.admits_undefined, hname]
  · next hname => simpa [hname] using hconstraint.admits_newValue_iff (clock f.name)

end

/--
**What a new record is where nothing is required.** The checks complain about a field alone that is
named like the key for what a record comes from and has no object for a value, and the database
takes the values of all fields but those that are to be one of some options without the empty text.
-/
theorem plan_newRecord {keys : NamingKeys} {text : String} {p : Plan}
    (h : plan keys text = .ok p) (hoptional : ∀ f ∈ p.entity.fields, f.isRequired = false)
    (clock : String → Moment × Moment) :
    p.MakesRecords ∧ ∃ r, newRecord? clock p.entity = some r ∧
      recordComplaints? r p.entity.fields = some (p.entity.fields.flatMap fun f =>
        if hasNewValue f then [] else (checks f).map Check.message) ∧
      ∀ f ∈ p.entity.fields, ∀ c ∈ constraints f,
        (c.admits ((r.own f.name).getD .undefined) = true ↔
          ∀ options, c = .oneOf options → f.name ≠ Record.prototypeKey → "" ∈ options) := by
  have hclassified := isClassified_of_plan h
  refine ⟨makesRecords_of_plan h, _, newRecord?_eq hclassified clock, ?_,
    fun f hf c hmem => admits_newRecord_iff h clock hf (hoptional f hf) hmem⟩
  have hfield : ∀ f ∈ p.entity.fields,
      ((Record.empty.putAll (newMembers clock p.entity)).member? f.name).bind (complaints? · f) =
        some (if hasNewValue f then [] else (checks f).map Check.message) := by
    intro f hf
    rw [member?_newRecord clock (nodup_names_of_plan h) hf, Option.bind_some]
    split
    · exact complaints?_newValue (hclassified f hf) (hoptional f hf) _
    · next hlost =>
      rw [hasNewValue, Bool.or_eq_true, not_or, ← isObject_newValue (clock f.name)] at hlost
      exact complaints?_prototype (hclassified f hf) (hoptional f hf)
        (Bool.eq_false_iff.mpr hlost.2)
  rw [recordComplaints?, mapM_eq_some hfield, Option.map_some, List.flatMap_def]

/-- A schema with a choice that may be left out. -/
def draftSchema : String :=
  "\x7b\"namingConvention\":\x7b\"Users_1_000___\":\"Posts\",\"users_2_000___\":\"posts\","
    ++ "\"User_3_000___\":\"Post\"\x7d,"
    ++ "\"fields\":[\x7b\"name\":\"title\",\"type\":\"STRING\"\x7d,"
    ++ "\x7b\"name\":\"status\",\"type\":\"SELECT\",\"options\":[\"draft\"]\x7d]\x7d"

theorem fields_draftSchema :
    ∃ p, plan {} draftSchema = .ok p ∧
      (∀ f ∈ p.entity.fields, f.isRequired = false ∧ hasNewValue f = true) ∧
      ∃ f ∈ p.entity.fields, f.name = "status" ∧ Constraint.oneOf ["draft"] ∈ constraints f := by
  let look (e : Entity) := e.fields.all (fun f => !f.isRequired && hasNewValue f) &&
    e.fields.any fun f => f.name = "status" && (constraints f).contains (.oneOf ["draft"])
  obtain ⟨p, hp, hlook⟩ : ∃ p, plan {} draftSchema = .ok p ∧ look p.entity = true := by
    apply exists_plan_of_chars
    · unfold draftSchema
      iterate 3 apply toList_append_eq String.toList_ofList
      exact String.toList_ofList
    · decide +kernel
  refine ⟨p, hp, ?_⟩
  simpa [look] using hlook

/-- A clock that has stopped at midnight. -/
def stoppedClock (_ : String) : Moment × Moment :=
  let midnight : Moment := ⟨.finite (.zero false), nofun, 0, 0, ":00".toList⟩
  (midnight, midnight)

/-- The new record passes all checks, and the database does not take it. -/
theorem plan_newRecord_draftSchema :
    ∃ p r, plan {} draftSchema = .ok p ∧ newRecord? stoppedClock p.entity = some r ∧
      recordComplaints? r p.entity.fields = some [] ∧
      ∃ f ∈ p.entity.fields, ∃ c ∈ constraints f,
        c.admits ((r.own f.name).getD .undefined) = false := by
  obtain ⟨p, hp, hall, f, hf, hname, hmem⟩ := fields_draftSchema
  obtain ⟨-, r, hr, hcomplaints, hadmits⟩ :=
    plan_newRecord hp (fun f hf => (hall f hf).1) stoppedClock
  refine ⟨p, r, hp, hr, ?_, f, hf, _, hmem, ?_⟩
  · rw [hcomplaints, Option.some_inj, List.flatMap_eq_nil_iff]
    exact fun g hg => if_pos (hall g hg).2
  · refine Bool.eq_false_iff.mpr fun h => ?_
    have hempty : "" ∈ ["draft"] :=
      (hadmits f hf _ hmem).mp h _ rfl (by rw [hname]; decide)
    simp at hempty

/-- **Not every new record that passes the checks is taken by the database.** -/
theorem exists_newRecord_refused :
    ¬∀ (keys : NamingKeys) (text : String) (p : Plan), plan keys text = .ok p →
      (∀ f ∈ p.entity.fields, f.isRequired = false) → ∀ clock : String → Moment × Moment,
        ∃ r, newRecord? clock p.entity = some r ∧
          recordComplaints? r p.entity.fields = some [] ∧
          ∀ f ∈ p.entity.fields, ∀ c ∈ constraints f,
            c.admits ((r.own f.name).getD .undefined) = true := by
  intro hclaim
  obtain ⟨p, hp, hall, f, hf, hname, hmem⟩ := fields_draftSchema
  obtain ⟨r, hr, -, hadmits⟩ :=
    hclaim {} draftSchema p hp (fun f hf => (hall f hf).1) stoppedClock
  rw [newRecord?_eq (isClassified_of_plan hp)] at hr
  obtain rfl := Option.some.inj hr
  have hempty : "" ∈ ["draft"] := (admits_newRecord_iff hp _ hf (hall f hf).1 hmem).mp
    (hadmits f hf _ hmem) _ rfl (by rw [hname]; decide)
  simp at hempty

end EntitySlice
