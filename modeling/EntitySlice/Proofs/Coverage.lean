import EntitySlice.Proofs.Grammar
import EntitySlice.Proofs.Regeneration
import EntitySlice.Proofs.Slice.FieldLines

/-!
# Every field has its lines

A schema is read item by item, and no two of its fields have the same name (`fields_of_parse`). In
the interface of the records, in a new record, in the database model, in the columns of the table
and in the headers of the saved file each field has one line, in the order of the schema, and the
name of the field is read back from it (`plan_covers`).
-/

namespace EntitySlice

open EntitySlice.Source EntitySlice.Slice EntitySlice.Text

/-! ## Fields of a schema -/

/-- The items of the field list of a document; there may be no list. -/
def fieldItems (document : Json.Value) : List Json.Value :=
  match document.get? fieldsKey with
  | some (.array items) => items
  | _ => []

/-- An item is accepted after others when it is a field and none of them has its name. -/
theorem fieldAt_eq_ok_iff {seen : List String} {index : Nat} {item : Json.Value} {f : FieldSpec} :
    fieldAt seen index item = .ok f ↔ FieldSpec.ofValue item = .ok f ∧
      trim f.name ≠ "" ∧ f.name ∉ reservedNames ∧ f.name ∉ seen := by
  unfold fieldAt
  cases FieldSpec.ofValue item with
  | error x => simp
  | ok g =>
    simp only [ne_eq, trim_eq_empty_iff, List.contains_eq_mem, decide_eq_true_eq]
    constructor
    · intro h
      split at h
      · simp at h
      · next hblank =>
        split at h
        · simp at h
        · next hreserved =>
          split at h
          · simp at h
          · next hseen =>
            obtain rfl := Except.ok.inj h
            exact ⟨rfl, hblank, hreserved, hseen⟩
    · rintro ⟨h, hblank, hreserved, hseen⟩
      obtain rfl := Except.ok.inj h
      rw [if_neg hblank, if_neg hreserved, if_neg hseen]

/-- **The fields of a list are its items**, and their names are new and different. -/
theorem fieldsOfItems_eq_ok_iff {seen : List String} {items : List Json.Value}
    {fs : List FieldSpec} :
    fieldsOfItems seen items = .ok fs ↔ items.map FieldSpec.ofValue = fs.map .ok ∧
      (fs.map FieldSpec.name).Nodup ∧
        ∀ f ∈ fs, trim f.name ≠ "" ∧ f.name ∉ reservedNames ∧ f.name ∉ seen := by
  induction items generalizing seen fs with
  | nil =>
    rw [fieldsOfItems, Except.ok.injEq]
    constructor
    · rintro rfl
      simp
    · exact fun h => (List.map_eq_nil_iff.mp h.1.symm).symm
  | cons item rest ih =>
    rw [fieldsOfItems]
    constructor
    · intro h
      obtain ⟨f, hf, h⟩ := exists_of_bind_eq_ok h
      obtain ⟨gs, hgs, h⟩ := exists_of_bind_eq_ok h
      obtain rfl := Except.ok.inj h
      obtain ⟨hitem, hnew⟩ := fieldAt_eq_ok_iff.mp hf
      obtain ⟨hitems, hnodup, hnames⟩ := ih.mp hgs
      refine ⟨by rw [List.map_cons, List.map_cons, hitem, hitems], ?_, ?_⟩
      · -- The fields after this one were read with its name among the names seen.
        rw [List.map_cons, List.nodup_cons]
        refine ⟨fun hmem => ?_, hnodup⟩
        obtain ⟨g, hg, hname⟩ := List.mem_map.mp hmem
        exact (hnames g hg).2.2 (hname ▸ List.mem_cons_self)
      · refine List.forall_mem_cons.mpr ⟨hnew, fun g hg => ?_⟩
        obtain ⟨hblank, hreserved, hseen⟩ := hnames g hg
        exact ⟨hblank, hreserved, fun hmem => hseen (List.mem_cons_of_mem _ hmem)⟩
    · rintro ⟨hitems, hnodup, hnames⟩
      obtain ⟨f, gs, rfl, hitem, hrest⟩ := List.map_eq_cons_iff.mp hitems.symm
      rw [List.forall_mem_cons] at hnames
      rw [List.map_cons, List.nodup_cons] at hnodup
      have hf : fieldAt seen seen.length item = .ok f :=
        fieldAt_eq_ok_iff.mpr ⟨hitem.symm, hnames.1⟩
      have hgs : fieldsOfItems (f.name :: seen) rest = .ok gs := by
        refine ih.mpr ⟨hrest.symm, hnodup.2, fun g hg => ?_⟩
        obtain ⟨hblank, hreserved, hseen⟩ := hnames.2 g hg
        refine ⟨hblank, hreserved, fun hmem => (List.mem_cons.mp hmem).elim (fun hname => ?_) hseen⟩
        exact hnodup.1 (hname ▸ List.mem_map_of_mem hg)
      rw [hf]
      simp only [bind, Except.bind, hgs]
      rfl

theorem namingOf_eq_ok_iff {v? : Option Json.Value} {block : Json.Members} :
    namingOf v? = .ok block ↔ v? = some (.object block) := by
  unfold namingOf
  split <;> simp_all

/-- What a document is as a schema. -/
theorem schema_ofValue_eq_ok_iff {v : Json.Value} {s : Schema} :
    Schema.ofValue v = .ok s ↔ s.document = v ∧ v.get? namingKey = some (.object s.naming) ∧
      fieldsOf (v.get? fieldsKey) = .ok s.fields := by
  obtain ⟨fields, naming, document⟩ := s
  constructor
  · intro h
    unfold Schema.ofValue at h
    split at h
    · obtain ⟨naming', hnaming, h⟩ := exists_of_bind_eq_ok h
      obtain ⟨fields', hfields, h⟩ := exists_of_bind_eq_ok h
      obtain ⟨rfl, rfl, rfl⟩ := Schema.mk.inj (Except.ok.inj h)
      exact ⟨rfl, namingOf_eq_ok_iff.mp hnaming, hfields⟩
    · simp at h
  · rintro ⟨rfl, hnaming, hfields⟩
    dsimp only at hnaming hfields ⊢
    cases document with
    | object members =>
      rw [Schema.ofValue, namingOf_eq_ok_iff.mpr hnaming, hfields]
      rfl
    | _ => simp [Json.Value.get?] at hnaming

/-- The fields of a document are those of the items, also when there is no list of them. -/
theorem fieldsOfItems_of_fieldsOf {v : Json.Value} {fs : List FieldSpec}
    (h : fieldsOf (v.get? fieldsKey) = .ok fs) : fieldsOfItems [] (fieldItems v) = .ok fs := by
  unfold fieldsOf at h
  unfold fieldItems
  split at h
  · next hnone => rwa [hnone]
  · next hnull => rwa [hnull]
  · next items hitems => rwa [hitems]
  · simp at h

/-- The naming block and the fields of a schema are those of its document. -/
theorem document_of_parse {text : String} {s : Schema} (h : Schema.parse text = .ok s) :
    s.document.get? namingKey = some (.object s.naming) ∧
      fieldsOf (s.document.get? fieldsKey) = .ok s.fields := by
  unfold Schema.parse at h
  split at h
  · obtain ⟨rfl, h⟩ := schema_ofValue_eq_ok_iff.mp h
    exact h
  · simp at h

/-- **A schema has a field for each item of its field list**, no name twice and none of its own. -/
theorem fields_of_parse {text : String} {s : Schema} (h : Schema.parse text = .ok s) :
    (fieldItems s.document).map FieldSpec.ofValue = s.fields.map .ok ∧
      (s.fields.map FieldSpec.name).Nodup ∧ ∀ f ∈ s.fields, f.name ∉ reservedNames := by
  obtain ⟨hread, hnodup, hnames⟩ :=
    fieldsOfItems_eq_ok_iff.mp (fieldsOfItems_of_fieldsOf (document_of_parse h).2)
  exact ⟨hread, hnodup, fun f hf => (hnames f hf).2.1⟩

/-- The fields of an entity are those of the schema, each with the classification it asks for. -/
theorem map_ofSpecs {β : Type} (g : FieldSpec → Classification → β) (specs : List FieldSpec) :
    (Field.ofSpecs specs).map (fun f => g f.spec f.classification) =
      specs.map fun s => g s s.classification := by
  -- The keys taken so far have a say in the key of a field alone.
  have hafter (taken : Std.HashSet String) :
      (Field.ofSpecsAfter taken specs).map (fun f => g f.spec f.classification) =
        specs.map fun s => g s s.classification := by
    induction specs generalizing taken with
    | nil => rfl
    | cons s specs ih => rw [Field.ofSpecsAfter, List.map_cons, List.map_cons, ih]
  exact hafter {}

/-- All that is known about the fields of a schema follows from their descriptions. -/
theorem classification_ofSpecs {specs : List FieldSpec} :
    ∀ f ∈ Field.ofSpecs specs, f.classification = f.spec.classification := by
  have hspecs := map_ofSpecs (fun s _ => s.classification) specs
  exact List.map_inj_left.mp ((map_ofSpecs (fun _ c => c) specs).trans hspecs.symm)

/-- What is planned has the fields of the schema, under names from the parts of its own. -/
theorem fields_of_plan {keys : NamingKeys} {text : String} {p : Plan}
    (h : plan keys text = .ok p) : ∃ s, Schema.parse text = .ok s ∧
      p.entity.fields = Field.ofSpecs s.fields ∧ p.entity.naming.OfParts := by
  obtain ⟨s, n, ns, hs, hn, he, -⟩ := exists_schema_of_prepare (plan_eq_ok_iff.mp h).1
  refine ⟨s, hs, ?_, ?_⟩
  · rw [he]
    rfl
  · rw [he]
    exact ofParts_of_resolve hn

/-- Names that are new and different stay so among those that every record has. -/
theorem nodup_keys {names : List String} (hnodup : names.Nodup)
    (hnew : ∀ n ∈ names, n ∉ reservedNames) :
    (["_id"] ++ names ++ ["createdAt", "updatedAt"]).Nodup := by
  have hperm : (["_id"] ++ names ++ ["createdAt", "updatedAt"]).Perm (reservedNames ++ names) := by
    rw [List.append_assoc]
    exact List.perm_append_comm.append_left ["_id"]
  rw [hperm.nodup_iff, List.nodup_append]
  exact ⟨by decide, hnodup, fun a ha b hb he => hnew b hb (he ▸ ha)⟩

/-! ## Plans -/

/-- The text of the file of a part that is one file. -/
def Plan.text? (p : Plan) (q : Part) : Option String :=
  match p.artifacts.filter (·.key = q.name) with
  | [a] => some a.content
  | _ => none

/-- The lines between two lines in the text of a part. -/
def Plan.block? (p : Plan) (q : Part) (first last : String) : Option (List String) :=
  (p.text? q).map fun text => linesBetween first last (textLines text)

/-- Whether the files of a plan have one line for each field wherever they go through the fields. -/
structure Plan.Covers (p : Plan) (fields : List FieldSpec) : Prop where
  /-- The interface says the type of each field between what every record has. -/
  interface : ∃ lines, p.block? .entityData (interfaceStart p.entity) "\x7d" =
      some (["  _id?: string;"] ++ lines ++ ["  createdAt?: Date;", "  updatedAt?: Date;"]) ∧
    lines.map (readKeyLine? ';') =
      fields.map fun f => some ⟨f.name, false, f.widget.valueKind.codeType⟩
  /-- No key comes twice in the interface. -/
  keys : ∃ lines, ∃ names : List String,
    p.block? .entityData (interfaceStart p.entity) "\x7d" = some lines ∧
    (lines.map fun l => (readKeyLine? ';' l).map KeyLine.name) = names.map some ∧ names.Nodup
  /-- A new record has the default of each field. -/
  newRecord : ∃ lines, p.block? .entityData (defaultStart p.entity) r"});" = some lines ∧
    lines.map (readKeyLine? ',') = fields.map fun f =>
      some ⟨f.name, false, (DefaultValue.ofKind f.widget.valueKind).expression⟩
  /-- The database knows each field. -/
  model : ∃ lines, p.block? .model "  \x7b" r"  }," = some lines ∧
    (lines.map fun l => (readKeyLine? ',' l).map KeyLine.name) = fields.map fun f => some f.name
  /-- The table has a column for each field. -/
  columns : ∃ lines, p.block? .table (columnStart p.entity) "];" = some lines ∧
    lines.map readRow? = fields.map fun f => some (f.name, titleCase f.name)
  /-- The saved file has a header for each field. -/
  headers : ∃ lines, p.block? .exportData (headerStart p.entity) "];" = some lines ∧
    lines.map readRow? = fields.map fun f => some (f.name, titleCase f.name)

theorem text?_of_plan {keys : NamingKeys} {text : String} {p : Plan} (h : plan keys text = .ok p)
    {q : Part} {f : SliceFile} (hq : q.singleFile? p.entity = some f) :
    p.text? q = some f.content.text := by
  rw [Plan.text?, filter_artifacts_of_plan h hq]
  rfl

/-- The blocks of a planned module are those of its text. -/
theorem block?_of_plan {keys : NamingKeys} {text : String} {p : Plan} (h : plan keys text = .ok p)
    {q : Part} {path : Path} {f : File} (hq : q.single? p.entity = some (path, .source f))
    {first last : String} {lines : List String}
    (hlines : linesBetween first last (textLines f.text) = lines) :
    p.block? q first last = some lines := by
  have hfile : q.singleFile? p.entity = some ⟨q, path, .source f⟩ := by
    rw [Part.singleFile?, hq]
    rfl
  rw [Plan.block?, text?_of_plan h hfile, Option.map_some]
  exact congrArg some hlines

/--
**Every field has its lines.** The fields of a planned schema are the items of its field list, one
for each, and the files of the plan have one line for each of them in all five places.
-/
theorem plan_covers {keys : NamingKeys} {text : String} {p : Plan} (h : plan keys text = .ok p) :
    ∃ s, Schema.parse text = .ok s ∧
      (fieldItems s.document).map FieldSpec.ofValue = s.fields.map .ok ∧
      p.entity.fields.map Field.spec = s.fields ∧ p.Covers s.fields := by
  obtain ⟨s, hs, hfields, hnames⟩ := fields_of_plan h
  obtain ⟨hitems, hnodup, hreserved⟩ := fields_of_parse hs
  have hmap {β : Type} (g : FieldSpec → Classification → β) :
      p.entity.fields.map (fun f => g f.spec f.classification) =
        s.fields.map fun s => g s s.classification := by
    rw [hfields]
    exact map_ofSpecs g s.fields
  have hspecs : p.entity.fields.map Field.spec = s.fields := by
    simpa using hmap fun s _ => s
  have hclassified : ∀ f ∈ p.entity.fields, f.classification = f.spec.classification := by
    rw [hfields]
    exact classification_ofSpecs
  have hproperties := block?_of_plan h (q := .entityData) rfl (linesBetween_interface hnames)
  rw [text_propertyTexts] at hproperties
  refine ⟨s, hs, hitems, hspecs, ?_⟩
  constructor
  case interface =>
    refine ⟨_, hproperties, ?_⟩
    rw [read_propertyLines]
    exact hmap fun s c => some (KeyLine.mk s.name false c.valueKind.codeType)
  case keys =>
    have hid : (readKeyLine? ';' "  _id?: string;").map KeyLine.name = some "_id" := by decide
    have hcreated : (readKeyLine? ';' "  createdAt?: Date;").map KeyLine.name =
        some "createdAt" := by
      decide
    have hupdated : (readKeyLine? ';' "  updatedAt?: Date;").map KeyLine.name =
        some "updatedAt" := by
      decide
    have hread : (propertyLines p.entity).map (fun l => (readKeyLine? ';' l).map KeyLine.name) =
        (s.fields.map FieldSpec.name).map some := by
      have hlines := congrArg (List.map (Option.map KeyLine.name)) (read_propertyLines p.entity)
      rw [List.map_map, List.map_map] at hlines
      rw [List.map_map]
      exact hlines.trans (hmap fun s _ => some s.name)
    refine ⟨_, ["_id"] ++ s.fields.map FieldSpec.name ++ ["createdAt", "updatedAt"],
      hproperties, ?_, ?_⟩
    · simp only [List.map_append, List.map_cons, List.map_nil, hid, hcreated, hupdated, hread]
    · exact nodup_keys hnodup (List.forall_mem_map.mpr hreserved)
  case newRecord =>
    refine ⟨_, block?_of_plan h (q := .entityData) rfl (linesBetween_default hnames hclassified),
      ?_⟩
    rw [read_defaultTexts]
    exact hmap fun s c => some (KeyLine.mk s.name false c.default.expression)
  case model =>
    refine ⟨_, block?_of_plan h (q := .model) rfl (linesBetween_model hnames), ?_⟩
    have hlines := congrArg (List.map (Option.map KeyLine.name)) (read_modelTexts p.entity)
    rw [List.map_map, List.map_map (f := fun f => some _)] at hlines
    exact hlines.trans (hmap fun s _ => some s.name)
  case columns =>
    refine ⟨_, block?_of_plan h (q := .table) rfl (linesBetween_columns hnames), ?_⟩
    rw [read_rowTexts]
    exact hmap fun s _ => some (s.name, titleCase s.name)
  case headers =>
    refine ⟨_, block?_of_plan h (q := .exportData) rfl (linesBetween_headers hnames), ?_⟩
    rw [read_rowTexts]
    exact hmap fun s _ => some (s.name, titleCase s.name)

/-- A schema whose fields have names that look like code. -/
def quotedSchema : String :=
  "\x7b\"namingConvention\":\x7b\"Users_1_000___\":\"Posts\",\"users_2_000___\":\"posts\","
    ++ "\"User_3_000___\":\"Post\"\x7d,\"fields\":[\x7b\"name\":\"it's\",\"type\":\"STRING\"\x7d,"
    ++ "\x7b\"name\":\"a\\nb\\\\\",\"type\":\"DATE\"\x7d,"
    ++ "\x7b\"name\":\"\x7d;\",\"type\":\"CHECKBOX\"\x7d]\x7d"

theorem plan_covers_quoted :
    ∃ p, ∃ s : Schema, plan {} quotedSchema = .ok p ∧
      s.fields.map FieldSpec.name = ["it's", "a\nb\\", "\x7d;"] ∧ p.Covers s.fields := by
  have hnames : ∃ p, plan {} quotedSchema = .ok p ∧
      p.entity.fields.map Field.name = ["it's", "a\nb\\", "\x7d;"] := by
    apply exists_plan_of_chars (fun e => e.fields.map Field.name)
    · unfold quotedSchema
      iterate 3 apply toList_append_eq String.toList_ofList
      exact String.toList_ofList
    · decide +kernel
  obtain ⟨p, hplan, hnames⟩ := hnames
  obtain ⟨s, -, -, hspecs, hcovers⟩ := plan_covers hplan
  refine ⟨p, s, hplan, ?_, hcovers⟩
  rw [← hspecs, List.map_map]
  exact hnames

end EntitySlice
