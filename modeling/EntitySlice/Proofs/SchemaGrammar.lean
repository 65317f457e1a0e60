import EntitySlice.Proofs.FieldItems
import EntitySlice.Proofs.Grammar

/-!
# The grammar of schemas

A document is a schema when it is an object with a naming block and a field list, which may be
missing, each item of the list has the form of a field, and the names of the fields are new
(`SchemaForm`). A field list that is in no form is refused for the first item that is at fault
(`ItemFault`); what is said of documents altogether is `ofValue_grammar`.
-/

namespace EntitySlice

open EntitySlice.Json EntitySlice.Text

/-! ## Field lists -/

/--
Whether a field list, which may be missing or null, is in form: each item has the form of a field,
and the names are neither blank nor reserved and differ.
-/
inductive FieldListForm : Option Json.Value → Prop
  | missing : FieldListForm none
  | null : FieldListForm (some .null)
  | list {items : List Json.Value} {names : List String}
    (hitems : List.Forall₂ FieldForm items names) (hblank : ∀ n ∈ names, trim n ≠ "")
    (hreserved : ∀ n ∈ names, n ∉ reservedNames) (hnodup : names.Nodup) :
    FieldListForm (some (.array items))

theorem forall₂_readAs_iff {items : List Json.Value} {fs : List FieldSpec} :
    List.Forall₂ ReadAs items fs ↔ items.map FieldSpec.ofValue = fs.map .ok := by
  rw [← List.forall₂_eq_eq_eq, List.forall₂_map_left_iff, List.forall₂_map_right_iff]
  simp only [ofValue_eq_ok_iff]

theorem exists_fields_of_forall₂ {items : List Json.Value} {names : List String}
    (h : List.Forall₂ FieldForm items names) :
    ∃ fs : List FieldSpec, List.Forall₂ ReadAs items fs ∧ fs.map FieldSpec.name = names := by
  induction h with
  | nil => exact ⟨[], .nil, rfl⟩
  | cons hitem _ ih =>
    obtain ⟨f, hf, rfl⟩ := fieldForm_iff.mp hitem
    obtain ⟨fs, hfs, rfl⟩ := ih
    exact ⟨f :: fs, .cons hf hfs, rfl⟩

/-- **A field list is read when it is in form.** -/
theorem fieldListForm_iff {list? : Option Json.Value} :
    FieldListForm list? ↔ ∃ fs, fieldsOf list? = .ok fs := by
  constructor
  · intro h
    cases h with
    | list hitems hblank hreserved hnodup =>
      obtain ⟨fs, hfs, rfl⟩ := exists_fields_of_forall₂ hitems
      rw [List.forall_mem_map] at hblank hreserved
      refine ⟨fs, fieldsOfItems_eq_ok_iff.mpr ⟨forall₂_readAs_iff.mp hfs, hnodup, fun f hf => ?_⟩⟩
      exact ⟨hblank f hf, hreserved f hf, List.not_mem_nil⟩
    | _ => exact ⟨[], rfl⟩
  · rintro ⟨fs, h⟩
    unfold fieldsOf at h
    split at h
    · exact .missing
    · exact .null
    · obtain ⟨hitems, hnodup, hnames⟩ := fieldsOfItems_eq_ok_iff.mp h
      have hforms : List.Forall₂ FieldForm _ (fs.map FieldSpec.name) :=
        List.forall₂_map_right_iff.mpr
          ((forall₂_readAs_iff.mpr hitems).imp fun item f hf => fieldForm_iff.mpr ⟨f, hf, rfl⟩)
      refine .list hforms ?_ ?_ hnodup
      · exact List.forall_mem_map.mpr fun f hf => (hnames f hf).1
      · exact List.forall_mem_map.mpr fun f hf => (hnames f hf).2.1
    · simp at h

/-! ## Items at fault -/

/-- What is wrong with an item of the field list that comes after others. -/
inductive ItemFault (before : List Json.Value) (item : Json.Value) : SchemaFault → Prop
  | noField {x : FieldFault} (hform : ∀ name, ¬FieldForm item name)
    (hx : FieldSpec.ofValue item = .error x) : ItemFault before item (.badField before.length x)
  | blank {name : String} (hform : FieldForm item name) (hblank : trim name = "") :
    ItemFault before item (.blankName before.length)
  | reserved {name : String} (hform : FieldForm item name) (hreserved : name ∈ reservedNames) :
    ItemFault before item (.reservedName name)
  | repeated {name : String} {other : Json.Value} (hform : FieldForm item name)
    (hother : other ∈ before) (hsame : FieldForm other name) :
    ItemFault before item (.repeatedName name)

/-- Whether a fault is about the first item of a field list that is at fault. -/
def SchemaFault.IsFirstIn (items : List Json.Value) (x : SchemaFault) : Prop :=
  ∃ before item, IsFirst (fun b i => ∃ y, ItemFault b i y) items before item ∧
    ItemFault before item x

section

variable {before : List Json.Value} {seen : List String}
  (hseen : ∀ n, n ∈ seen ↔ ∃ other ∈ before, FieldForm other n)

include hseen

theorem itemFault_of_fieldAt {item : Json.Value} {x : SchemaFault}
    (h : fieldAt seen before.length item = .error x) : ItemFault before item x := by
  unfold fieldAt at h
  split at h
  · next y hy =>
    obtain rfl := Except.error.inj h
    refine .noField (fun name hform => ?_) hy
    obtain ⟨f, hf, -⟩ := fieldForm_iff.mp hform
    rw [ofValue_eq_ok_iff.mpr hf] at hy
    simp at hy
  · next f hf =>
    have hform : FieldForm item f.name := (fieldForm_iff_of_ofValue hf).mpr rfl
    split at h
    · next hblank =>
      obtain rfl := Except.error.inj h
      exact .blank hform (trim_eq_empty_iff.mpr hblank)
    · split at h
      · next hreserved =>
        obtain rfl := Except.error.inj h
        exact .reserved hform (by simpa using hreserved)
      · split at h
        · next hmem =>
          obtain rfl := Except.error.inj h
          obtain ⟨other, hother, hsame⟩ := (hseen f.name).mp (by simpa using hmem)
          exact .repeated hform hother hsame
        · simp at h

theorem not_itemFault_of_fieldAt {index : Nat} {item : Json.Value} {f : FieldSpec}
    (h : fieldAt seen index item = .ok f) : ¬∃ x, ItemFault before item x := by
  obtain ⟨hitem, hblank, hreserved, hnew⟩ := fieldAt_eq_ok_iff.mp h
  have hname {name : String} (hform : FieldForm item name) : f.name = name :=
    (fieldForm_iff_of_ofValue hitem).mp hform
  rintro ⟨x, hx⟩
  cases hx with
  | noField hform => exact hform f.name ((fieldForm_iff_of_ofValue hitem).mpr rfl)
  | blank hform h => exact hblank (hname hform ▸ h)
  | reserved hform h => exact hreserved (hname hform ▸ h)
  | repeated hform hother hsame =>
    exact hnew ((hseen f.name).mpr ⟨_, hother, hname hform ▸ hsame⟩)

/-- The items after others are read up to the first one at fault. -/
theorem isFirst_of_fieldsOfItems (hlength : seen.length = before.length) {items : List Json.Value}
    {x : SchemaFault} (h : fieldsOfItems seen items = .error x) :
    ∃ after item, IsFirst (fun b i => ∃ y, ItemFault (before ++ b) i y) items after item ∧
      ItemFault (before ++ after) item x := by
  induction items generalizing before seen with
  | nil => simp [fieldsOfItems] at h
  | cons item rest ih =>
    rw [fieldsOfItems] at h
    rcases error_cases_of_bind h with hf | ⟨f, hf, h⟩
    · have hfault := itemFault_of_fieldAt hseen (hlength ▸ hf)
      rw [← List.append_nil before] at hfault
      exact ⟨[], item, .head ⟨x, hfault⟩ rest, hfault⟩
    · have hform {name : String} : FieldForm item name ↔ f.name = name :=
        fieldForm_iff_of_ofValue (fieldAt_eq_ok_iff.mp hf).1
      have hseen' (n : String) :
          n ∈ f.name :: seen ↔ ∃ other ∈ before ++ [item], FieldForm other n := by
        simp only [List.mem_cons, hseen, List.mem_append, List.not_mem_nil, or_false, or_and_right,
          exists_or, exists_eq_left, hform]
        rw [or_comm, eq_comm]
      have hrest : fieldsOfItems (f.name :: seen) rest = .error x := by
        rcases error_cases_of_bind h with hrest | ⟨fs, -, h⟩
        · exact hrest
        · cases h
      obtain ⟨after, bad, hfirst, hfault⟩ := ih hseen' (by simp [hlength]) hrest
      refine ⟨item :: after, bad, .cons ?_ ?_, ?_⟩
      · rw [List.append_nil]
        exact not_itemFault_of_fieldAt hseen hf
      · simpa [List.append_assoc] using hfirst
      · simpa [List.append_assoc] using hfault

end

/-! ## Schemas -/

/-- Whether a document is in the form of a schema. -/
def SchemaForm (v : Json.Value) : Prop :=
  ∃ members block : Json.Members, v = .object members ∧
    members.get? namingKey = some (.object block) ∧ FieldListForm (members.get? fieldsKey)

/-- A document is a schema when it is in the form of one. -/
theorem exists_schema_iff {v : Json.Value} : (∃ s, Schema.ofValue v = .ok s) ↔ SchemaForm v := by
  constructor
  · rintro ⟨s, h⟩
    obtain ⟨-, hnaming, hfields⟩ := schema_ofValue_eq_ok_iff.mp h
    cases v with
    | object members => exact ⟨members, s.naming, rfl, hnaming, fieldListForm_iff.mpr ⟨_, hfields⟩⟩
    | _ => simp [Json.Value.get?] at hnaming
  · rintro ⟨members, block, rfl, hnaming, hlist⟩
    obtain ⟨fs, hfs⟩ := fieldListForm_iff.mp hlist
    exact ⟨⟨fs, block, .object members⟩, schema_ofValue_eq_ok_iff.mpr ⟨rfl, hnaming, hfs⟩⟩

/-- Of a document with a naming block and items, the first item at fault is to blame. -/
theorem isFirstIn_of_ofValue {v : Json.Value} {block : Json.Members} {items : List Json.Value}
    {x : SchemaFault} (hnaming : v.get? namingKey = some (.object block))
    (hitems : v.get? fieldsKey = some (.array items)) (h : Schema.ofValue v = .error x) :
    x.IsFirstIn items := by
  rw [ofValue_eq hnaming, hitems, fieldsOf] at h
  cases hfs : fieldsOfItems [] items with
  | ok fs => simp [hfs, Except.map] at h
  | error y =>
    obtain rfl : y = x := by simpa [hfs, Except.map] using h
    have hnone (n : String) :
        n ∈ [] ↔ ∃ other ∈ ([] : List Json.Value), FieldForm other n := by simp
    exact isFirst_of_fieldsOfItems hnone rfl hfs

/--
**A document is taken for a schema when it is in the form of one**, and its fields are what is read
of the items of its list. If only the items can be wrong, the fault is about the first of them that
is no field, or whose name is blank, reserved or that of an item before it. A field whose type is no
text is a text field with one warning, whatever the type is.
-/
theorem ofValue_grammar (v : Json.Value) :
    ((∃ s, Schema.ofValue v = .ok s) ↔ SchemaForm v) ∧
      (∀ s, Schema.ofValue v = .ok s → s.document = v ∧
        v.get? namingKey = some (.object s.naming) ∧
          List.Forall₂ ReadAs (fieldItems v) s.fields) ∧
      (∀ block items x, v.get? namingKey = some (.object block) →
        v.get? fieldsKey = some (.array items) → Schema.ofValue v = .error x →
          x.IsFirstIn items) ∧
      ∀ (members : Json.Members) (f : FieldSpec), ReadAs (.object members) f →
        (∀ t, members.get? "type" ≠ some (.string t)) →
          f.classification.widget = .text ∧ fieldWarnings [f] = [.unknownTag f.name f.tag] := by
  refine ⟨exists_schema_iff, fun s h => ?_, fun block items x => isFirstIn_of_ofValue, ?_⟩
  · obtain ⟨hdocument, hnaming, hfields⟩ := schema_ofValue_eq_ok_iff.mp h
    have hitems := fieldsOfItems_eq_ok_iff.mp (fieldsOfItems_of_fieldsOf hfields)
    exact ⟨hdocument, hnaming, forall₂_readAs_iff.mpr hitems.1⟩
  · intro members f h htype
    have htag : Widget.ofTag? f.tag = none := by
      cases h with
      | object _ htag _ _ => exact tagOf_iff.mp htag ▸ ofTag?_tagOfType htype
    constructor
    · show (Widget.ofTag? f.tag).getD .text = .text
      rw [htag, Option.getD_none]
    · have hwarning : f.warning? = some (.unknownTag f.name f.tag) := by
        rw [FieldSpec.warning?, htag]
      rw [fieldWarnings, List.filterMap_cons_some hwarning, List.filterMap_nil]

/-- A document with items and an empty naming block. -/
def itemsDocument (items : List Json.Value) : Json.Value :=
  .object [(namingKey, .object []), (fieldsKey, .array items)]

/-- Items of which the last one has the name of the first. -/
def rankItems : List Json.Value :=
  [.object [("name", .string "rank"), ("type", .number (.integer 7))],
    .array [.string "title", .string "string"], .object [("name", .string "rank")]]

theorem ofValue_grammar_rankItems :
    (∃ s, Schema.ofValue (itemsDocument (rankItems.take 2)) = .ok s ∧
      List.Forall₂ ReadAs (rankItems.take 2) s.fields) ∧
    (Schema.ofValue (itemsDocument rankItems) = .error (.repeatedName "rank") ∧
      SchemaFault.IsFirstIn rankItems (.repeatedName "rank")) ∧
    ∃ f, ReadAs (.object [("name", .string "rank"), ("type", .number (.integer 7))]) f ∧
      f.classification.widget = .text ∧ fieldWarnings [f] = [.unknownTag "rank" "7"] := by
  refine ⟨⟨_, rfl, ((ofValue_grammar (itemsDocument (rankItems.take 2))).2.1 _ rfl).2.2⟩,
    ⟨rfl, (ofValue_grammar (itemsDocument rankItems)).2.2.1 [] rankItems _ rfl rfl rfl⟩, ?_⟩
  have hread : ReadAs (.object [("name", .string "rank"), ("type", .number (.integer 7))])
      ⟨"rank", "7", none, none⟩ := ofValue_eq_ok_iff.mp rfl
  refine ⟨_, hread, (ofValue_grammar (itemsDocument [])).2.2.2 _ _ hread fun t ht => ?_⟩
  have htype : some (Json.Value.number (.integer 7)) = some (.string t) := ht
  simp at htype

end EntitySlice
