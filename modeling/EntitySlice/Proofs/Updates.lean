import EntitySlice.Proofs.Planning
import EntitySlice.Proofs.Slice.Imports
import EntitySlice.Proofs.Source.Objects

/-!
# What an update changes

An update goes through three modules: the dialog for a change sends the record with its `id`, the
query client takes the `id` out and puts it back in, and the controller takes it out again. What is
left is what the database is asked to change (`change?_eq`): the record without its property `id`.
So a field with that name is never changed, and every other field is (`plan_changes`).
-/

namespace EntitySlice.Slice

open EntitySlice.Source

variable {α : Type}

/-! ## The way of a record -/

/-- What the database is asked to do: which record to change, and to which values. -/
structure Change (α : Type) where
  id : α
  values : Properties α

/-- The change that is asked for when a record is sent from the dialog. -/
def change? (item : Properties α) : Option (Change α) := do
  let argument ← (Scope.ofObject "item" item).object? editArgument
  let body ← (updateArgument.scope argument).object? updateBody
  let taken := updateRequest.scope body
  return ⟨← taken.values "id", ← taken.objects "updateData"⟩

/-- What the dialog sends is the record with its `_id` as its `id`. -/
theorem object?_editArgument {item : Properties α} {id : α} (h : item "_id" = some id) :
    (Scope.ofObject "item" item).object? editArgument = some (item.set "id" id) := by
  have hkey : readKey? ['i', 'd'] = some ['i', 'd'] := by decide
  have hvalue : (Scope.ofObject "item" item).value? "item._id as string" = some id := by
    have hsplit : "item._id as string".toList.splitOn ' ' =
        ("item".toList ++ '.' :: "_id".toList) :: ["as".toList, "string".toList] := by
      decide
    rw [Scope.value?_eq_property _ hsplit (by decide)]
    exact h
  simp [Scope.object?, editArgument, Scope.extend?, hkey, hvalue]

/-- The query client sends what it is given, with the `id` before all else. -/
theorem object?_updateBody {argument : Properties α} {id : α} (h : argument "id" = some id) :
    (updateArgument.scope argument).object? updateBody =
      some ((Properties.empty.set "id" id).spread (argument.without ["id"])) := by
  simp [Scope.object?, updateBody, updateArgument, Scope.extend?, Pattern.scope, h]

/-- **What is changed is all of the record but a property `id`.** -/
theorem change?_eq {item : Properties α} {id : α} (h : item "_id" = some id) :
    change? item = some ⟨id, item.without ["id"]⟩ := by
  -- What the query client sends has the `id` that the dialog set, and all else of the record.
  have hbody := object?_updateBody (item.set_self "id" id)
  rw [item.without_set id ["id"] List.mem_cons_self] at hbody
  have hid : (Properties.empty.set "id" id).spread (item.without ["id"]) "id" = some id := by
    rw [Properties.spread_without_of_mem _ _ _ List.mem_cons_self, Properties.set_self]
  have hrest : ((Properties.empty.set "id" id).spread (item.without ["id"])).without ["id"] =
      item.without ["id"] := by
    funext k
    -- All keys but `id` come from the record, as the object in front of it has no other.
    by_cases hk : k ∈ ["id"]
    · rw [Properties.without_of_mem _ _ hk, Properties.without_of_mem _ _ hk]
    · have hne : k ≠ "id" := fun he => hk (List.mem_singleton.mpr he)
      rw [Properties.without_of_notMem _ _ hk, Properties.spread, Properties.set_of_ne _ _ _ hne,
        Properties.without_of_notMem _ _ hk]
      exact Option.or_none
  simp only [change?, object?_editArgument h, hbody, Option.bind_eq_bind, Option.bind_some]
  simp [updateRequest, Pattern.scope, hid, hrest]

/-! ## The statements on the way -/

theorem hasCode_tryBlock {statements : List String} {s : String} (h : s ∈ statements) (hne : s ≠ "")
    (fallback : String) : HasCode (tryBlock statements fallback) s :=
  (((HasCode.of_code h hne).block _ _).append_left _).append_left _

/-- The dialog hands the record to the update operation. -/
theorem hasCode_editDialog (e : Entity) : HasCode (editDialog e).lines
    ("await " ++ e.naming.operationName .update
      ++ r"({ ...item, id: item._id as string }).unwrap();") := by
  have hargument : object editArgument = r"{ ...item, id: item._id as string }" := by decide
  have hstatement : awaitMutation e.naming .update (object editArgument) =
      "await " ++ e.naming.operationName .update
        ++ r"({ ...item, id: item._id as string }).unwrap();" := by
    rw [awaitMutation, hargument, ← String.toList_inj]
    simp
  have hne : awaitMutation e.naming .update (object editArgument) ≠ "" := by simp [awaitMutation]
  have hsubmit : HasCode (submitFunction e.naming .update "item" (object editArgument))
      (awaitMutation e.naming .update (object editArgument)) :=
    ((hasCode_tryBlock List.mem_cons_self hne _).append_right _).block _ _
  rw [← hstatement]
  exact .of_main (f := editDialog e) rfl (List.mem_of_getElem? (i := 4) rfl) hsubmit

/-- The line of the query client about updates. -/
def updateQueryLine (e : Entity) : String :=
  r"query: ({ id, ...data }: Partial<" ++ e.naming.interfaceName
    ++ r"> & { id: string }) => ({ url: '', method: 'PUT', body: { id, ...data } }),"

theorem queryLine_update (e : Entity) : queryLine
    (updateArgument.source ++ ": Partial<" ++ e.naming.interfaceName ++ r"> & { id: string }") ""
    "PUT" ("body: " ++ object updateBody) = Line.code (updateQueryLine e) := by
  have hargument : updateArgument.source = r"{ id, ...data }" := by decide
  have hbody : object updateBody = r"{ id, ...data }" := by decide
  unfold queryLine updateQueryLine
  rw [hargument, hbody]
  refine congrArg Line.code (String.toList_inj.mp ?_)
  simp only [String.toList_append]
  simp

/-- The query client takes the `id` out of its argument and puts it back into the body. -/
theorem hasCode_queryClient (e : Entity) : HasCode (queryClient e).lines (updateQueryLine e) := by
  have hitem : .declared (apiSliceConst e) ∈ (queryClient e).items :=
    List.mem_of_getElem? (i := 5) rfl
  have hmember : HasCode ((endpointDefinitions e.naming).flatMap (·.lines e.naming))
      (updateQueryLine e) := by
    have hd : (⟨.update, [Line.code (updateQueryLine e)], listTags e.naming⟩ : EndpointDefinition) ∈
        endpointDefinitions e.naming := by
      rw [← queryLine_update]
      simp [endpointDefinitions]
    have hquery : HasCode ([Line.code (updateQueryLine e)]
        ++ code [tagsKey .update ++ ": " ++ listTags e.naming ++ ","]) (updateQueryLine e) :=
      ⟨0, List.mem_append_left _ List.mem_cons_self⟩
    obtain ⟨n, hn⟩ := hquery.block
      (e.naming.operationName .update ++ ": builder." ++ Operation.update.builder ++ r"({") r"}),"
    exact ⟨n, List.mem_flatMap.mpr ⟨_, hd, hn⟩⟩
  exact .of_const hitem ((hmember.block _ _).append_right _)

/-- The controller takes the `id` out of the body and changes the record to the rest. -/
theorem hasCode_controller (e : Entity) : ∀ s ∈ [r"const { id, ...updateData } = await req.json();",
      "const updated = await " ++ e.naming.modelName
        ++ r".findByIdAndUpdate(id, updateData, { new: true, runValidators: true });"],
    HasCode (controller e).lines s := by
  have hitem : .declared (updateHandler e) ∈ (controller e).items :=
    List.mem_of_getElem? (i := 12) rfl
  have htake : "const " ++ updateRequest.source ++ " = await req.json();" =
      r"const { id, ...updateData } = await req.json();" := by
    decide
  have hchange : "const updated = await " ++ changeCall e ++ ";" = "const updated = await "
      ++ e.naming.modelName
      ++ r".findByIdAndUpdate(id, updateData, { new: true, runValidators: true });" := by
    rw [changeCall, ← String.toList_inj]
    simp
  rw [← htake, ← hchange, List.forall_mem_cons, List.forall_mem_singleton]
  constructor
  · exact .of_const hitem (.of_code List.mem_cons_self (by rw [htake]; decide))
  · exact .of_const hitem (.of_code (List.mem_of_getElem? (i := 2) rfl) (by simp))

end EntitySlice.Slice

namespace EntitySlice

open EntitySlice.Source EntitySlice.Slice

/-! ## Plans -/

/-- Whether the modules of a plan take a record from the dialog to the database like `change?`. -/
structure Plan.SendsChanges (p : Plan) : Prop where
  /-- The dialog hands the record to the update operation, with its `_id` as `id`. -/
  dialog : ∃ f ∈ files p.entity, f.part = .edit ∧ HasCode f.lines
    ("await " ++ p.entity.naming.operationName .update
      ++ r"({ ...item, id: item._id as string }).unwrap();")
  /-- The query client takes the `id` out and sends it with the rest. -/
  client : ∃ f ∈ files p.entity, f.part = .querySlice ∧ HasCode f.lines (updateQueryLine p.entity)
  /-- The controller takes the `id` out and changes the record with it to the rest. -/
  controller : ∃ f ∈ files p.entity, f.part = .controller ∧
    HasCode f.lines r"const { id, ...updateData } = await req.json();" ∧
    HasCode f.lines ("const updated = await " ++ p.entity.naming.modelName
      ++ r".findByIdAndUpdate(id, updateData, { new: true, runValidators: true });")

theorem sendsChanges (p : Plan) : p.SendsChanges where
  dialog := ⟨_, mem_files_of_singleFile? (p := .edit) rfl, rfl, hasCode_editDialog p.entity⟩
  client := ⟨_, mem_files_of_singleFile? (p := .querySlice) rfl, rfl, hasCode_queryClient p.entity⟩
  controller := by
    have hlines := hasCode_controller p.entity
    rw [List.forall_mem_cons, List.forall_mem_singleton] at hlines
    exact ⟨_, mem_files_of_singleFile? (p := .controller) rfl, rfl, hlines.1, hlines.2⟩

/--
**An update keeps every field but one named `id`.** The record that is changed is the one with the
`_id`, and a field that the record has a value for is changed to that value unless its name is `id`;
such a field is not changed at all.
-/
theorem plan_changes {keys : NamingKeys} {text : String} {p : Plan}
    (h : plan keys text = .ok p) {α : Type} (item : Properties α) {id : α}
    (hid : item "_id" = some id) :
    p.artifacts = (files p.entity).map SliceFile.artifact ∧ p.SendsChanges ∧
      ∃ c, change? item = some c ∧ c.id = id ∧
        ∀ f ∈ p.entity.fields, ∀ x, item f.name = some x →
          (f.name ≠ "id" → c.values f.name = some x) ∧
          (f.name = "id" → c.values f.name = none) := by
  have hfiles : p.artifacts = (files p.entity).map SliceFile.artifact := (plan_eq_ok_iff.mp h).2
  refine ⟨hfiles, sendsChanges p, _, change?_eq hid, rfl, ?_⟩
  intro f _ x hx
  constructor
  · intro hne
    have hkept := item.without_of_notMem ["id"] (mt List.mem_singleton.mp hne)
    exact hkept.trans hx
  · intro he
    exact Properties.without_of_mem _ _ (List.mem_singleton.mpr he)

/-- A schema with a field that has the name of the key for the record. -/
def idSchema : String :=
  "\x7b\"namingConvention\":\x7b\"Users_1_000___\":\"Posts\",\"users_2_000___\":\"posts\","
    ++ "\"User_3_000___\":\"Post\"\x7d,"
    ++ "\"fields\":[\x7b\"name\":\"id\",\"type\":\"STRING\"\x7d,"
    ++ "\x7b\"name\":\"title\",\"type\":\"STRING\"\x7d]\x7d"

theorem fieldNames_idSchema :
    ∃ p, plan {} idSchema = .ok p ∧ p.entity.fields.map Field.name = ["id", "title"] := by
  apply exists_plan_of_chars (fun e => e.fields.map Field.name)
  · unfold idSchema
    iterate 3 apply toList_append_eq String.toList_ofList
    exact String.toList_ofList
  · decide +kernel

/-- The title of a record is changed, and its `id` is not. -/
theorem plan_changes_title :
    ∃ p c, plan {} idSchema = .ok p ∧ change? (fun k => some k) = some c ∧ c.id = "_id" ∧
      c.values "title" = some "title" ∧ c.values "id" = none := by
  obtain ⟨p, hp, hnames⟩ := fieldNames_idSchema
  obtain ⟨-, -, c, hc, hid, hfields⟩ := plan_changes hp (fun k => some k) (rfl : _ = some "_id")
  have hmem : ∀ n ∈ ["id", "title"], ∃ f ∈ p.entity.fields, f.name = n := by
    intro n hn
    exact List.mem_map.mp (hnames ▸ hn)
  obtain ⟨f, hf, hfn⟩ := hmem "title" (by simp)
  obtain ⟨g, hg, hgn⟩ := hmem "id" (by simp)
  refine ⟨p, c, hp, hc, hid, ?_, ?_⟩
  · exact hfn ▸ (hfields f hf _ rfl).1 (by simp [hfn])
  · exact hgn ▸ (hfields g hg _ rfl).2 hgn

/-- **Not every update keeps every field.** -/
theorem exists_field_not_changed :
    ¬∀ (keys : NamingKeys) (text : String) (p : Plan), plan keys text = .ok p →
      ∀ (item : Properties String) (id : String), item "_id" = some id →
        (∀ f ∈ p.entity.fields, item f.name ≠ none) →
          ∃ c, change? item = some c ∧ c.id = id ∧
            ∀ f ∈ p.entity.fields, c.values f.name = item f.name := by
  intro hall
  -- A record with every property, each with its own name for a value.
  obtain ⟨p, hp, hnames⟩ := fieldNames_idSchema
  obtain ⟨f, hf, hname⟩ : ∃ f ∈ p.entity.fields, f.name = "id" :=
    List.mem_map.mp (hnames ▸ List.mem_cons_self)
  obtain ⟨c, hc, -, hfields⟩ := hall {} idSchema p hp (fun k => some k) "_id" rfl fun _ _ => by simp
  rw [change?_eq (rfl : _ = some "_id")] at hc
  obtain rfl := Option.some.inj hc
  have hkept := hfields f hf
  have hlost : Properties.without some ["id"] "id" = none :=
    Properties.without_of_mem _ _ List.mem_cons_self
  rw [hname] at hkept
  exact absurd (hlost.symm.trans hkept) (by simp)

end EntitySlice
