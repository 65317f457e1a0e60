import EntitySlice.Proofs.Naming
import EntitySlice.Slice.Part

/-!
# Lines for fields

Five blocks in the modules of a slice have one line for each field: the interface and the new record
in the shape of the records, the fields of the database model, the columns of the table and the
headers of the saved file. Each block stands between its first and its last line in the text of its
module (`linesBetween_interface` and those after it), whatever the names of the fields are.
-/

namespace EntitySlice.Slice

open EntitySlice.Source

/-! ## One line each -/

theorem oneLine_codeType (k : ValueKind) : OneLine k.codeType := by
  cases k <;> decide

theorem oneLine_literalList (items : List String) : OneLine (literalList items) := by
  refine (OneLine.append (by decide) (.intercalate (by decide) ?_)).append (by decide)
  exact List.forall_mem_map.mpr fun s _ => oneLine_literal s

theorem oneLine_constraints (f : Field) : ∀ c ∈ constraints f, OneLine c.member.source := by
  have hvalidator : ∀ c ∈ validatorConstraints f.classification.validator,
      OneLine c.member.source := by
    unfold validatorConstraints
    split
    · decide
    · simp [Constraint.member, Member.source, oneLine_literalList]
      decide
    · simp
  have htype : OneLine (Constraint.type f.valueKind.storedType).member.source := by
    cases f.valueKind <;> decide
  have hdefault : ∀ c ∈ defaultConstraints f, OneLine c.member.source := by
    unfold defaultConstraints
    split
    · decide
    · decide
    · split <;> decide
    · simp
  have hrequired : ∀ c ∈ if f.isRequired then [Constraint.required] else [],
      OneLine c.member.source := by
    split <;> decide
  have htrimmed : ∀ c ∈ if isTrimmed f.widget then [Constraint.trimmed] else [],
      OneLine c.member.source := by
    split <;> decide
  simp only [constraints, List.forall_mem_append, List.forall_mem_singleton]
  exact ⟨⟨⟨⟨htype, hrequired⟩, hvalidator⟩, hdefault⟩, htrimmed⟩

theorem oneLine_shownText (f : Field) {object : String} (h : OneLine object) :
    OneLine (shownText f object) := by
  have hv := h.member f.name
  unfold shownText
  dsimp only
  split <;> simp only [oneLine_append, hv, and_true] <;> decide

/-! ## The shape of the records -/

section EntityData

variable (e : Entity)

/-- The properties of the interface as texts. -/
def propertyTexts : List String :=
  ["_id?: string;"]
    ++ e.fields.map (fun f => propertyKey f.name ++ ": " ++ f.valueKind.codeType ++ ";")
    ++ ["createdAt?: Date;", "updatedAt?: Date;"]

/-- The members of a new record as texts. -/
def defaultTexts : List String :=
  e.fields.map fun f => propertyKey f.name ++ ": " ++ f.classification.default.expression ++ ","

/-- The comment at the top of the module. -/
def entityComment : String := "// " ++ ("Auto-generated entity shape for " ++ e.naming.plural)

/-- The first line of the interface. -/
def interfaceStart : String := "export interface " ++ e.naming.interfaceName ++ " \x7b"

/-- The first line of the function that makes a new record. -/
def defaultStart : String :=
  "export const " ++ e.naming.defaultConst ++ " = (): " ++ e.naming.interfaceName ++ r" => ({"

/-- What the module declares behind the interface and the function that makes a new record. -/
def lastDeclaration : List Line :=
  ((entityData e).sections.drop 2).flatten.flatMap Item.lines

/-- The module begins with a comment, the interface and the function that makes a new record. -/
theorem lines_entityData : (entityData e).lines =
    [Line.code (entityComment e)] ++
      Line.code (interfaceStart e) :: ((propertyTexts e).map (fun t => ⟨2, .code t⟩) ++
        Line.code "\x7d" :: (Line.blank :: Line.code (defaultStart e) ::
          ((defaultTexts e).map (fun t => ⟨2, .code t⟩) ++
            Line.code r"});" :: Line.blank :: lastDeclaration e))) := by
  have hproperties : entityProperties e = (propertyTexts e).map Line.code := by
    simp [entityProperties, propertyTexts, propertyLine]
  have hdefaults : (defaultMembers e).map memberLine = (defaultTexts e).map Line.code := by
    simp [defaultMembers, defaultTexts, memberLine, Member.source]
  have hopening : Declaration.exportWord true ++ "interface " ++ e.naming.interfaceName ++ " \x7b" =
      interfaceStart e := rfl
  have hstart : Declaration.exportWord true ++ "const " ++ e.naming.defaultConst
      ++ (" = (): " ++ e.naming.interfaceName ++ r" => ({") = defaultStart e := by
    unfold defaultStart
    rw [← String.append_assoc, ← String.append_assoc]
    rfl
  have hinterface := lines_interface true e.naming.interfaceName (propertyTexts e)
  have hdefault := lines_const true e.naming.defaultConst
    (" = (): " ++ e.naming.interfaceName ++ r" => ({") r"});" (defaultTexts e)
  rw [hopening] at hinterface
  rw [hstart] at hdefault
  simp only [lastDeclaration, File.lines, entityData, hproperties, hdefaults, List.map_cons,
    List.flatMap_cons, Item.lines, hinterface, hdefault]
  simp [paragraphs, Item.lines]
  rfl

theorem oneLine_propertyTexts : ∀ t ∈ propertyTexts e, OneLine t := by
  simp only [propertyTexts, List.forall_mem_append, List.forall_mem_map]
  refine ⟨⟨by decide, fun f _ => ?_⟩, by decide⟩
  simp only [oneLine_append, oneLine_propertyKey, oneLine_codeType]
  decide

/-- The lines of the fields in the interface. -/
def propertyLines : List String :=
  e.fields.map fun f =>
    Line.text ⟨2, .code (propertyKey f.name ++ ": " ++ f.valueKind.codeType ++ ";")⟩

theorem text_propertyTexts : ((propertyTexts e).map fun t => Line.text ⟨2, .code t⟩) =
    ["  _id?: string;"] ++ propertyLines e ++ ["  createdAt?: Date;", "  updatedAt?: Date;"] := by
  have hid : Line.text ⟨2, .code "_id?: string;"⟩ = "  _id?: string;" := by decide
  have hcreated : Line.text ⟨2, .code "createdAt?: Date;"⟩ = "  createdAt?: Date;" := by decide
  have hupdated : Line.text ⟨2, .code "updatedAt?: Date;"⟩ = "  updatedAt?: Date;" := by decide
  rw [propertyTexts, List.map_append, List.map_append, List.map_singleton, List.map_map,
    List.map_cons, List.map_singleton, hid, hcreated, hupdated]
  rfl

/-- The names and the types of the fields are read back from the interface. -/
theorem read_propertyLines : (propertyLines e).map (readKeyLine? ';') =
    e.fields.map fun f => some ⟨f.name, false, f.valueKind.codeType⟩ := by
  rw [propertyLines, List.map_map]
  exact List.map_congr_left fun f _ => readKeyLine?_keyLine 2 f.name _ rfl

/-- The names and the defaults of the fields are read back from a new record. -/
theorem read_defaultTexts :
    ((defaultTexts e).map fun t => Line.text ⟨2, .code t⟩).map (readKeyLine? ',') =
      e.fields.map fun f => some ⟨f.name, false, f.classification.default.expression⟩ := by
  rw [defaultTexts, List.map_map, List.map_map]
  exact List.map_congr_left fun f _ => readKeyLine?_keyLine 2 f.name _ rfl

theorem head?_entityComment : (entityComment e).toList.head? = some '/' := by
  unfold entityComment
  simp

theorem head?_interfaceStart : (interfaceStart e).toList.head? = some 'e' := by
  unfold interfaceStart
  simp

theorem head?_defaultStart : (defaultStart e).toList.head? = some 'e' := by
  unfold defaultStart
  simp

theorem oneLine_defaultTexts (hf : ∀ f ∈ e.fields, f.classification = f.spec.classification) :
    ∀ t ∈ defaultTexts e, OneLine t := by
  have hkind (k : ValueKind) : OneLine (DefaultValue.ofKind k).expression := by
    cases k with
    | float =>
      rw [DefaultValue.ofKind, DefaultValue.expression, floatLiteral_zero]
      decide
    | _ => decide
  rw [defaultTexts, List.forall_mem_map]
  intro f hmem
  have hdefault : OneLine f.classification.default.expression := by
    -- A classification could have any text for a default; that of a schema is one of the kind.
    rw [hf f hmem]
    exact hkind _
  simp only [oneLine_append, oneLine_propertyKey, hdefault]
  decide

variable {e} (h : e.naming.OfParts)

include h

theorem oneLine_entityComment : OneLine (entityComment e) :=
  OneLine.append (by decide) (.append (by decide) h.oneLine_plural)

theorem oneLine_interfaceStart : OneLine (interfaceStart e) :=
  (OneLine.append (by decide) h.oneLine_interfaceName).append (by decide)

theorem oneLine_defaultStart : OneLine (defaultStart e) :=
  (((OneLine.append (by decide) h.oneLine_defaultConst).append (by decide)).append
    h.oneLine_interfaceName).append (by decide)

/-- **The properties stand in the text between the ends of the interface.** -/
theorem linesBetween_interface :
    linesBetween (interfaceStart e) "\x7d" (textLines (entityData e).text) =
      (propertyTexts e).map fun t => Line.text ⟨2, .code t⟩ := by
  have hlines := lines_entityData e
  have hbefore : ∀ l ∈ [Line.code (entityComment e)],
      OneLine l.text ∧ l.text ≠ interfaceStart e := by
    rw [List.forall_mem_singleton, text_code]
    exact ⟨oneLine_entityComment h,
      ne_of_head (by simp [head?_entityComment]) (head?_interfaceStart e)⟩
  exact linesBetween_code (k := 0) hlines (text_code _) (text_code _) hbefore
    (oneLine_interfaceStart h) (oneLine_propertyTexts e) (by decide) (by decide) rfl (by decide)

/-- **The members of a new record stand in the text between the ends of its function.** -/
theorem linesBetween_default (hf : ∀ f ∈ e.fields, f.classification = f.spec.classification) :
    linesBetween (defaultStart e) r"});" (textLines (entityData e).text) =
      (defaultTexts e).map fun t => Line.text ⟨2, .code t⟩ := by
  have hlines := lines_entityData e
  have hsplit : (entityData e).lines =
      (Line.code (entityComment e) :: Line.code (interfaceStart e) ::
          ((propertyTexts e).map (fun t => ⟨2, .code t⟩) ++
            [Line.code "\x7d", Line.blank])) ++ Line.code (defaultStart e) ::
            ((defaultTexts e).map (fun t => ⟨2, .code t⟩) ++
              Line.code r"});" :: Line.blank :: lastDeclaration e) := by
    rw [hlines]
    simp
  -- No line before the function is like its first line: the comment and the closing brace begin
  -- with another sign, the properties are further in, and the interface has another word.
  have hbefore : ∀ l ∈ Line.code (entityComment e) :: Line.code (interfaceStart e) ::
      ((propertyTexts e).map (fun t => ⟨2, .code t⟩) ++
        [Line.code "\x7d", Line.blank]),
      OneLine l.text ∧ l.text ≠ defaultStart e := by
    have hhead := head?_defaultStart e
    have hinterface : interfaceStart e ≠ defaultStart e := by
      intro he
      have hlist := congrArg String.toList he
      unfold interfaceStart defaultStart at hlist
      simp at hlist
    simp only [List.forall_mem_cons, List.forall_mem_append, List.forall_mem_map, text_code]
    refine ⟨⟨oneLine_entityComment h, ne_of_head (by simp [head?_entityComment]) hhead⟩,
      ⟨oneLine_interfaceStart h, hinterface⟩, ?_, ⟨by decide, ne_of_head (by simp) hhead⟩,
      ⟨by decide, ne_of_head (by decide) hhead⟩, fun _ hl => absurd hl List.not_mem_nil⟩
    intro t ht
    have hfar := text_ne_of_lt (k := 0) (n := 2) (t := t) (by decide) hhead (by decide)
    exact ⟨oneLine_code (oneLine_propertyTexts e t ht),
      fun he => hfar (he.trans (text_code _).symm)⟩
  exact linesBetween_code (k := 0) hsplit (text_code _) (text_code _) hbefore
    (oneLine_defaultStart h) (oneLine_defaultTexts e hf) (by decide) (by decide) rfl (by decide)

end EntityData

/-! ## The database model -/

section Model

variable (e : Entity)

/-- The fields of the database model as texts. -/
def modelTexts : List String :=
  e.fields.map fun f => propertyKey f.name ++ ": " ++ object ((constraints f).map Constraint.member)
    ++ ","

theorem oneLine_modelTexts : ∀ t ∈ modelTexts e, OneLine t := by
  rw [modelTexts, List.forall_mem_map]
  intro f _
  have hobject : OneLine (object ((constraints f).map Constraint.member)) := by
    refine .inBraces ?_
    rw [List.map_map, List.forall_mem_map]
    exact oneLine_constraints f
  simp only [oneLine_append, oneLine_propertyKey, hobject]
  decide

/-- The names of the fields are read back from the model, with what the database knows. -/
theorem read_modelTexts :
    ((modelTexts e).map fun t => Line.text ⟨4, .code t⟩).map (readKeyLine? ',') =
      e.fields.map fun f =>
        some ⟨f.name, false, object ((constraints f).map Constraint.member)⟩ := by
  rw [modelTexts, List.map_map, List.map_map]
  exact List.map_congr_left fun f _ => readKeyLine?_keyLine 4 f.name _ rfl

/-- The schema of the records. -/
def schemaDeclaration : Declaration :=
  .const false e.naming.schemaConst
    { first := " = new Schema("
      body := block r"{" (e.fields.map fun f => memberLine (fieldMember f)) r"},"
        ++ code [r"{ timestamps: true }"]
      last? := some ");" }

/-- The schema has the fields before all else. -/
theorem lines_schema : (schemaDeclaration e).lines =
    Line.code ("const " ++ e.naming.schemaConst ++ " = new Schema(") :: ⟨2, .code "\x7b"⟩ ::
      ((modelTexts e).map (fun t => ⟨4, .code t⟩) ++
        [⟨2, .code r"},"⟩, ⟨2, .code r"{ timestamps: true }"⟩, Line.code ");"]) := by
  have hfields : (e.fields.map fun f => memberLine (fieldMember f)) =
      (modelTexts e).map Line.code := by
    simp [modelTexts, memberLine, fieldMember, Member.source]
  have hword : Declaration.exportWord false ++ "const " ++ e.naming.schemaConst =
      "const " ++ e.naming.schemaConst := rfl
  rw [schemaDeclaration, hfields, Declaration.lines, Definition.lines, hword]
  simp [block, nest, indentBy, code, Line.code]

/-- The module has a comment and an import before the schema. -/
theorem lines_model : ∃ after, (model e).lines =
    [Line.code ("// " ++ ("Auto-generated mongoose model for " ++ e.naming.plural)),
      Line.code r"import mongoose, { Schema } from 'mongoose';", Line.blank,
      Line.code ("const " ++ e.naming.schemaConst ++ " = new Schema(")] ++
      ⟨2, .code "\x7b"⟩ :: ((modelTexts e).map (fun t => ⟨4, .code t⟩) ++
        ⟨2, .code r"},"⟩ :: after) := by
  have himport : (⟨some "mongoose", ["Schema"], "mongoose", false⟩ : Import).lines =
      [Line.code r"import mongoose, { Schema } from 'mongoose';"] := by
    decide
  obtain ⟨rest, hne, hsections⟩ : ∃ rest, rest ≠ [] ∧ (model e).lines = paragraphs
      ([Line.code ("// " ++ ("Auto-generated mongoose model for " ++ e.naming.plural)),
        Line.code r"import mongoose, { Schema } from 'mongoose';"] ::
        (schemaDeclaration e).lines :: rest) := by
    refine ⟨((model e).sections.drop 2).map fun s => s.flatMap Item.lines, by simp [model], ?_⟩
    simp [File.lines, model, schemaDeclaration, Item.lines, himport]
  rw [hsections, paragraphs_cons _ (List.cons_ne_nil _ _), paragraphs_cons _ hne, lines_schema]
  exact ⟨⟨2, .code r"{ timestamps: true }"⟩ :: Line.code ");" :: Line.blank :: paragraphs rest,
    by simp⟩

/-- **The fields of the model stand in the text between the braces of its schema.** -/
theorem linesBetween_model {e : Entity} (h : e.naming.OfParts) :
    linesBetween "  \x7b" r"  }," (textLines (model e).text) =
      (modelTexts e).map fun t => Line.text ⟨4, .code t⟩ := by
  obtain ⟨after, hlines⟩ := lines_model e
  -- The block begins with an indented brace, and no line before it is indented.
  have hhead : ("  \x7b" : String).toList.head? = some ' ' := by decide
  have hcomment : OneLine ("// " ++ ("Auto-generated mongoose model for " ++ e.naming.plural)) :=
    OneLine.append (by decide) (.append (by decide) h.oneLine_plural)
  have hschema : OneLine ("const " ++ e.naming.schemaConst ++ " = new Schema(") :=
    (OneLine.append (by decide) h.oneLine_schemaConst).append (by decide)
  refine linesBetween_code hlines (by decide) (by decide) ?_ (by decide) (oneLine_modelTexts e)
    (by decide) (by decide) rfl (by decide)
  simp only [List.forall_mem_cons, text_code]
  exact ⟨⟨hcomment, ne_of_head (by simp) hhead⟩, by decide, by decide,
    ⟨hschema, ne_of_head (by simp) hhead⟩, fun _ hl => absurd hl List.not_mem_nil⟩

end Model

/-! ## Tables -/

section Tables

variable {e : Entity}

theorem lines_named (name : String) (names : List String) (source : String) :
    (Import.named (name :: names) source).lines =
      [Line.code ("import " ++ inBraces (name :: names) ++ " from '" ++ source ++ "';")] := by
  simp [Import.lines, Import.named, Import.binds, Import.clause]

/-- What stands before a constant: lines that do not begin like one. -/
def IsBeforeConst (lines : List Line) : Prop :=
  ∀ l ∈ lines, OneLine l.text ∧ l.text.toList.head? ≠ some 'c'

theorem isBeforeConst_named {name : String} {names : List String} {source : String}
    (hnames : ∀ n ∈ name :: names, OneLine n) (hsource : OneLine source) :
    IsBeforeConst (Import.named (name :: names) source).lines := by
  have hline : OneLine ("import " ++ inBraces (name :: names) ++ " from '" ++ source ++ "';") := by
    have hbraces : OneLine (inBraces (name :: names)) := .inBraces hnames
    simp only [oneLine_append, hbraces, hsource]
    decide
  rw [lines_named, IsBeforeConst, List.forall_mem_singleton, text_code]
  exact ⟨hline, by simp⟩

/-- **The rows of a table stand in the text between its ends.** -/
theorem linesBetween_table {f : File} {before after : List Line} {name first : String}
    {texts : List String}
    (hf : f.lines = before ++ ((Declaration.const false name
      ⟨first, texts.map Line.code, some "];"⟩).lines ++ after))
    (hbefore : IsBeforeConst before) (hname : OneLine name) (hfirst : OneLine first)
    (htexts : ∀ t ∈ texts, OneLine t) :
    linesBetween ("const " ++ name ++ first) "];" (textLines f.text) =
      texts.map fun t => Line.text ⟨2, .code t⟩ := by
  have hword : Declaration.exportWord false ++ "const " = "const " := rfl
  rw [lines_const, hword, List.cons_append, List.append_assoc] at hf
  have hhead : ("const " ++ name ++ first).toList.head? = some 'c' := by simp
  exact linesBetween_code (k := 0) hf (text_code _) (text_code _)
    (fun l hl => ⟨(hbefore l hl).1, ne_of_head (hbefore l hl).2 hhead⟩)
    ((OneLine.append (by decide) hname).append hfirst) htexts (by decide) (by decide) rfl
    (by decide)

/-- The rows of a table for the fields as texts, with more members behind the key and the label. -/
def rowTexts (e : Entity) (more : Field → List Member) : List String :=
  e.fields.map fun f =>
    object (.entry "key" (literal f.name) :: .entry "label" (literal f.title) :: more f) ++ ","

/-- What the columns say about a field behind its key and its label. -/
def renderMember (f : Field) : List Member :=
  [.entry "render" ("(row) => " ++ shownText f "row")]

/-- The first line of the columns. -/
def columnStart (e : Entity) : String :=
  r"const columns: { key: SortKey; label: string; render: (row: " ++ e.naming.interfaceName
    ++ r") => string }[] = ["

/-- The first line of the headers. -/
def headerStart (e : Entity) : String :=
  r"const headers: { key: keyof " ++ e.naming.interfaceName ++ r"; label: string }[] = ["

theorem oneLine_rowTexts {more : Field → List Member}
    (h : ∀ f, ∀ m ∈ more f, OneLine m.source) : ∀ t ∈ rowTexts e more, OneLine t := by
  rw [rowTexts, List.forall_mem_map]
  intro f _
  refine OneLine.append (.inBraces ?_) (by decide)
  simp only [List.map_cons, List.forall_mem_cons, List.forall_mem_map, Member.source,
    oneLine_append, oneLine_literal, and_true]
  exact ⟨by decide, by decide, h f⟩

/-- The text of a row begins with the key and the label of its field. -/
theorem text_row (f : Field) (more : List Member) : ∃ rest, Line.text ⟨2, .code
    (object (.entry "key" (literal f.name) :: .entry "label" (literal f.title) :: more) ++ ",")⟩ =
      "  \x7b key: " ++ literal f.name ++ ", label: " ++ literal f.title ++ rest := by
  -- What closes the row stands behind the label, or a comma and the other members.
  cases more with
  | nil =>
    refine ⟨r" },", ?_⟩
    rw [text_indented, ← String.toList_inj]
    simp [object, inBraces, Member.source]
  | cons m more =>
    refine ⟨", " ++ ", ".intercalate ((m :: more).map Member.source) ++ r" },", ?_⟩
    rw [text_indented, ← String.toList_inj]
    simp [object, inBraces, Member.source]

/-- **The names and the titles of the fields are read back from the rows.** -/
theorem read_rowTexts (more : Field → List Member) :
    ((rowTexts e more).map fun t => Line.text ⟨2, .code t⟩).map readRow? =
      e.fields.map fun f => some (f.name, f.title) := by
  rw [rowTexts, List.map_map, List.map_map]
  refine List.map_congr_left fun f _ => ?_
  obtain ⟨rest, hrow⟩ := text_row f (more f)
  exact (congrArg readRow? hrow).trans (readRow?_rowLine _ _ _)

/-- What the table and the dialog begin with: a directive and imports. -/
def componentHead (n : Naming) (names : List String) : List Line :=
  [Line.code "'use client';", Line.blank] ++ ((reactImport names).lines ++ (storeImport n).lines
    ++ (dataImport [n.interfaceName]).lines) ++ [Line.blank]

variable (h : e.naming.OfParts)

include h

theorem isBeforeConst_componentHead {name : String} {names : List String}
    (hnames : ∀ n ∈ name :: names, OneLine n) :
    IsBeforeConst (componentHead e.naming (name :: names)) := by
  have hreact : IsBeforeConst (reactImport (name :: names)).lines :=
    isBeforeConst_named hnames (by decide)
  have hstore : IsBeforeConst (storeImport e.naming).lines :=
    isBeforeConst_named (List.forall_mem_singleton.mpr h.oneLine_storeHook) (by decide)
  have hdata : IsBeforeConst (dataImport [e.naming.interfaceName]).lines :=
    isBeforeConst_named (List.forall_mem_singleton.mpr h.oneLine_interfaceName) (by decide)
  simp only [IsBeforeConst, componentHead, List.forall_mem_append] at *
  exact ⟨⟨by decide, ⟨hreact, hstore⟩, hdata⟩, by decide⟩

/-- **The columns stand in the text between the ends of their table.** -/
theorem linesBetween_columns :
    linesBetween (columnStart e) "];" (textLines (tableView e).text) =
      (rowTexts e renderMember).map fun t => Line.text ⟨2, .code t⟩ := by
  have hcolumns : columnLines e = (rowTexts e renderMember).map Line.code := by
    simp [columnLines, columnMembers, rowTexts, renderMember]
  -- `linesBetween_table` wants the first line cut behind the name of the table.
  have hstart : columnStart e = "const " ++ "columns" ++
      (r": { key: SortKey; label: string; render: (row: " ++ e.naming.interfaceName
        ++ r") => string }[] = [") := by
    unfold columnStart
    rw [← String.append_assoc, ← String.append_assoc]
    rfl
  have hdirective : (Item.directive "use client").lines = [Line.code "'use client';"] := by decide
  have hlines : (tableView e).lines =
      (componentHead e.naming ["useMemo", "useState"] ++
        [Line.code ("type SortKey = keyof " ++ e.naming.interfaceName ++ ";"), Line.blank]) ++
          ((columns e).lines ++ Line.blank ::
            paragraphs (((tableView e).sections.drop 4).map fun s => s.flatMap Item.lines)) := by
    simp [File.lines, tableView, clientDirective, paragraphs, hdirective, componentHead]
    rfl
  have htype : OneLine ("type SortKey = keyof " ++ e.naming.interfaceName ++ ";") :=
    (OneLine.append (by decide) h.oneLine_interfaceName).append (by decide)
  have hbefore : IsBeforeConst (componentHead e.naming ["useMemo", "useState"] ++
      [Line.code ("type SortKey = keyof " ++ e.naming.interfaceName ++ ";"), Line.blank]) := by
    refine List.forall_mem_append.mpr ⟨isBeforeConst_componentHead h (by decide), ?_⟩
    rw [List.forall_mem_cons, List.forall_mem_singleton, text_code]
    exact ⟨⟨htype, by simp⟩, by decide⟩
  have hrender : ∀ f, ∀ m ∈ renderMember f, OneLine m.source := by
    intro f
    have hshown : OneLine (shownText f "row") := oneLine_shownText f (by decide)
    rw [renderMember, List.forall_mem_singleton]
    simp only [Member.source, oneLine_append, hshown]
    decide
  rw [columns, hcolumns] at hlines
  rw [hstart]
  exact linesBetween_table hlines hbefore (by decide)
    ((OneLine.append (by decide) h.oneLine_interfaceName).append (by decide))
    (oneLine_rowTexts hrender)

/-- **The headers stand in the text between the ends of their table.** -/
theorem linesBetween_headers :
    linesBetween (headerStart e) "];" (textLines (exportDialog e).text) =
      (rowTexts e fun _ => []).map fun t => Line.text ⟨2, .code t⟩ := by
  have hheaders : headerLines e = (rowTexts e fun _ => []).map Line.code := by
    simp [headerLines, headerMembers, rowTexts]
  have hstart : headerStart e = "const " ++ "headers" ++
      (r": { key: keyof " ++ e.naming.interfaceName ++ r"; label: string }[] = [") := by
    unfold headerStart
    rw [← String.append_assoc, ← String.append_assoc]
    rfl
  have hdirective : (Item.directive "use client").lines = [Line.code "'use client';"] := by decide
  have hlines : (exportDialog e).lines =
      componentHead e.naming ["useState"] ++ ((headers e).lines ++ Line.blank ::
        paragraphs (((exportDialog e).sections.drop 3).map fun s => s.flatMap Item.lines)) := by
    simp [File.lines, exportDialog, clientDirective, paragraphs, hdirective, componentHead]
    rfl
  rw [headers, hheaders] at hlines
  rw [hstart]
  exact linesBetween_table hlines (isBeforeConst_componentHead h (by decide)) (by decide)
    ((OneLine.append (by decide) h.oneLine_interfaceName).append (by decide))
    (oneLine_rowTexts fun _ _ hm => absurd hm List.not_mem_nil)

end Tables

end EntitySlice.Slice
