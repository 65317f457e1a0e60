import EntitySlice.Proofs.NamePatterns
import EntitySlice.Proofs.Slice.Imports
import EntitySlice.Proofs.Source.Bindings

/-!
# The names that the modules of a slice bind

Each module of a slice imports and declares some fixed names and some that are made from the plural
of the entity (`bindingPatterns`). Two modules have one name more that is made from a name in camel
case (`camelNames`).
-/

namespace EntitySlice.Slice

open EntitySlice.Source EntitySlice.Text

/-! ## Patterns -/

/-- The name of an operation. -/
def operationPattern (o : Operation) : NamePattern := .around o.verb o.ending

/-- The hook that runs an operation. -/
def hookPattern (o : Operation) : NamePattern :=
  .around ("use" ++ capitalizeAscii o.verb) (o.ending ++ capitalizeAscii o.builder)

/-- The model of the records in the database. -/
def modelPattern : NamePattern := .around "" ""

/-- The interface of the state of the page. -/
def stateInterfacePattern : NamePattern := .around "" "Store"

/-- The component of the page. -/
def pagePattern : NamePattern := .around "" "Page"

/-- The interface of the records. -/
def interfacePattern : NamePattern := .around "I" ""

/-- The function that makes a new record. -/
def defaultPattern : NamePattern := .around "default" ""

/-- The function that checks a record. -/
def validatePattern : NamePattern := .around "validate" ""

/-- The hook for the state of the page. -/
def storePattern : NamePattern := .around "use" "Store"

/-- The names that the dialogs import in which fields are edited. -/
def editorPatterns (ps : List Picker) (shape : List NamePattern) : List NamePattern :=
  shape ++ ps.map (fun p => .fixed p.component) ++ [.fixed "errorMessage"]

/--
The names that the module of a part binds, but for those made from names in camel case; `ps` are the
components that fields are edited with.
-/
def bindingPatterns (ps : List Picker) : Part → List NamePattern
  | .model => [.fixed "mongoose", .fixed "Schema"]
  | .controller =>
    [.fixed "NextResponse", .fixed "connectDB", modelPattern, .fixed "Handler",
      .fixed "formatResponse", .fixed "withDB", .fixed "escapeRegex", .fixed "dateRangeFilter"]
      ++ Operation.all.map operationPattern
  | .route =>
    Operation.all.map operationPattern
      ++ [.fixed "isBulk", .fixed "GET", .fixed "POST", .fixed "PUT", .fixed "DELETE"]
  | .querySlice =>
    [.fixed "createApi", .fixed "fetchBaseQuery", interfacePattern, .fixed "ListQueryParams",
      .fixed "toSearch"] ++ Operation.all.map hookPattern
  | .uiStore =>
    [.fixed "create", interfacePattern, defaultPattern, .fixed "ModalName", .fixed "DateRange",
      stateInterfacePattern, .fixed "closedModals", storePattern]
  | .entityData => [interfacePattern, defaultPattern, validatePattern]
  | .page =>
    [.fixed "useEffect", .fixed "useState", hookPattern .list, storePattern, interfacePattern]
      ++ pageComponents.map .fixed ++ [pagePattern]
  | .add =>
    editorPatterns ps [.fixed "useState", storePattern, hookPattern .add, validatePattern]
      ++ [.fixed "Add"]
  | .edit =>
    editorPatterns ps [.fixed "useEffect", .fixed "useState", storePattern, hookPattern .update,
      interfacePattern, validatePattern] ++ [.fixed "Edit"]
  | .view => [storePattern, .fixed "View"]
  | .delete =>
    [.fixed "useState", storePattern, hookPattern .delete, .fixed "errorMessage", .fixed "Delete"]
  | .table =>
    [.fixed "useMemo", .fixed "useState", storePattern, interfacePattern, .fixed "SortKey",
      .fixed "columns", .fixed "TableView"]
  | .bulkEdit =>
    editorPatterns ps [.fixed "useEffect", .fixed "useState", storePattern,
      hookPattern .bulkUpdate, interfacePattern] ++ [.fixed "BulkEdit"]
  | .bulkUpdate =>
    editorPatterns ps [.fixed "useState", storePattern, hookPattern .bulkUpdate, interfacePattern,
      defaultPattern] ++ [.fixed "BulkUpdate"]
  | .bulkDynamicUpdate =>
    editorPatterns ps [.fixed "useState", storePattern, hookPattern .bulkUpdate, interfacePattern,
      defaultPattern] ++ [.fixed "Enabled", .fixed "BulkDynamicUpdate"]
  | .bulkDelete =>
    [.fixed "useState", storePattern, hookPattern .bulkDelete, .fixed "errorMessage",
      .fixed "BulkDelete"]
  | .filter => [.fixed "useEffect", .fixed "useState", storePattern, .fixed "FilterDialog"]
  | .summary =>
    [storePattern, hookPattern .summary, .fixed "MonthlyRow", .fixed "monthLabel",
      .fixed "Summary"]
  | .exportData =>
    [.fixed "useState", storePattern, interfacePattern, .fixed "headers", .fixed "csvCell",
      .fixed "toCsv", .fixed "download", .fixed "Export"]
  | .sliceSchema | .pickers => []

/-- The names made from names in camel case that the module of a part binds. -/
def camelNames (n : Naming) : Part → List String
  | .model => [n.schemaConst]
  | .querySlice => [n.apiSlice]
  | _ => []

/-! ## Names of the modules -/

section

variable (n : Naming)

@[simp] theorem name_fixed (s : String) : (NamePattern.fixed s).name n.plural = s := rfl

@[simp] theorem name_operationPattern (o : Operation) :
    (operationPattern o).name n.plural = n.operationName o := rfl

@[simp] theorem name_hookPattern (o : Operation) : (hookPattern o).name n.plural = n.hook o :=
  (String.append_assoc ..).symm

@[simp] theorem name_modelPattern : modelPattern.name n.plural = n.modelName :=
  String.append_empty.trans String.empty_append

@[simp] theorem name_stateInterfacePattern :
    stateInterfacePattern.name n.plural = n.storeInterface :=
  congrArg (· ++ "Store") String.empty_append

@[simp] theorem name_pagePattern : pagePattern.name n.plural = n.plural ++ "Page" :=
  congrArg (· ++ "Page") String.empty_append

@[simp] theorem name_interfacePattern : interfacePattern.name n.plural = n.interfaceName :=
  String.append_empty

@[simp] theorem name_defaultPattern : defaultPattern.name n.plural = n.defaultConst :=
  String.append_empty

@[simp] theorem name_validatePattern : validatePattern.name n.plural = n.validateFn :=
  String.append_empty

@[simp] theorem name_storePattern : storePattern.name n.plural = n.storeHook := rfl

theorem names_operations :
    (Operation.all.map operationPattern).map (NamePattern.name n.plural) =
      Operation.all.map n.operationName := by
  rw [List.map_map]
  exact List.map_congr_left fun o _ => name_operationPattern n o

theorem names_hooks :
    (Operation.all.map hookPattern).map (NamePattern.name n.plural) = Operation.all.map n.hook := by
  rw [List.map_map]
  exact List.map_congr_left fun o _ => name_hookPattern n o

end

/-- The names that a list of items binds. -/
theorem binds_pickerImports (e : Entity) :
    (pickerImports e).flatMap Item.binds = e.pickers.map Picker.component := by
  rw [pickerImports, List.flatMap_map]
  exact List.map_eq_flatMap.symm

/-- **The module of a part binds the names of its patterns, and those from names in camel case.** -/
theorem binds_perm {e : Entity} {p : Part} {path : Path} {f : File}
    (h : p.single? e = some (path, .source f)) :
    f.binds.Perm (camelNames e.naming p ++
      (bindingPatterns e.pickers p).map (NamePattern.name e.naming.plural)) := by
  have hops := names_operations e.naming
  have hhooks := names_hooks e.naming
  cases p with
  | sliceSchema | pickers => simp [Part.single?] at h
  | model =>
    obtain rfl := source_eq rfl h
    have hindex : (indexSection e).flatten.flatMap Item.binds = [] := by
      unfold indexSection
      split <;> rfl
    have hb : (model e).binds = ["mongoose", "Schema"] ++ [e.naming.schemaConst] := by
      simp only [File.binds, File.items, model, List.flatten_append, List.flatMap_append, hindex]
      rfl
    rw [hb]
    exact List.perm_append_comm
  | querySlice =>
    obtain rfl := source_eq rfl h
    have hb : (queryClient e).binds = ["createApi", "fetchBaseQuery", e.naming.interfaceName,
        "ListQueryParams", "toSearch"] ++ [e.naming.apiSlice] ++
          Operation.all.map e.naming.hook := rfl
    rw [hb, bindingPatterns, List.map_append, hhooks]
    simp only [List.map_cons, List.map_nil, name_fixed, name_interfacePattern]
    exact List.perm_append_comm.append_right _
  | controller | route | uiStore | entityData | page | view | delete | table | bulkDelete | filter
  | summary | exportData =>
    obtain rfl := source_eq rfl h
    refine List.Perm.of_eq ?_
    simp only [bindingPatterns, List.map_append, List.map_cons, List.map_nil, hops, name_fixed,
      name_hookPattern, name_modelPattern, name_stateInterfacePattern, name_pagePattern,
      name_interfacePattern, name_defaultPattern, name_validatePattern, name_storePattern]
    rfl
  | add | edit | bulkEdit | bulkUpdate | bulkDynamicUpdate =>
    obtain rfl := source_eq rfl h
    refine List.Perm.of_eq ?_
    simp only [File.binds, File.items, addDialog, editDialog, bulkEditDialog, bulkUpdateDialog,
      bulkDynamicUpdateDialog, draftImports, List.flatten_cons, List.flatten_nil,
      List.flatMap_append, binds_pickerImports, bindingPatterns, editorPatterns, List.map_append,
      List.map_map, List.map_cons, List.map_nil, name_fixed, name_hookPattern,
      name_interfacePattern, name_defaultPattern, name_validatePattern, name_storePattern,
      List.append_assoc]
    rfl

/-! ## Clashes -/

/-- The plurals that are fixed names of the module of a part. -/
def takenPlurals : Part → List String
  | .controller => ["NextResponse", "Handler"]
  | _ => []

theorem sublist_bindingPatterns (e : Entity) (p : Part) :
    (bindingPatterns e.pickers p).Sublist (bindingPatterns allPickers p) := by
  have hpickers (shape more : List NamePattern) :
      (editorPatterns e.pickers shape ++ more).Sublist (editorPatterns allPickers shape ++ more) :=
    ((((sublist_pickers e).map _).append_left shape).append_right _).append_right _
  cases p with
  | add | edit | bulkEdit | bulkUpdate | bulkDynamicUpdate => exact hpickers _ _
  | _ => exact List.Sublist.refl _

/-- The patterns of the names of a module are apart, but for the plurals that are taken. -/
theorem pairwise_bindingPatterns (e : Entity) (p : Part) :
    (bindingPatterns e.pickers p).Pairwise (NamePattern.Apart (takenPlurals p)) := by
  have hall : ∀ p ∈ Part.all,
      (bindingPatterns allPickers p).Pairwise (NamePattern.Apart (takenPlurals p)) := by
    decide +kernel
  exact (hall p (Part.mem_all p)).sublist (sublist_bindingPatterns e p)

theorem isPlain_of_mem_bindingPatterns {e : Entity} {p : Part} :
    ∀ x ∈ bindingPatterns e.pickers p, x.IsPlain := by
  have hall : ∀ p ∈ Part.all, ∀ x ∈ bindingPatterns allPickers p, x.IsPlain := by
    decide +kernel
  exact fun x hx => hall p (Part.mem_all p) x ((sublist_bindingPatterns e p).subset hx)

/-- Whether a name of the entity is one that the module of a part has for something else. -/
def Collides (n : Naming) : Part → Prop
  | .model => n.singularCamel = ""
  | .controller => n.plural = "NextResponse" ∨ n.plural = "Handler"
  | .querySlice => n.pluralCamel = "create"
  | _ => False

/-! ## Reading the modules -/

theorem regular_pickerImports (e : Entity) : ∀ i ∈ pickerImports e, i.Regular := by
  rw [pickerImports, List.forall_mem_map]
  intro p _
  rw [regular_imported, pickerImport, regular_byDefault]
  cases p <;> decide

variable {e : Entity}

/-- A name in camel case with some letters behind it is a word. -/
theorem isWord_camelCase_append {s t : String} (hs : ∀ c ∈ s.toList, isIdentifierPart c = true)
    (ht : IsWord t) : IsWord (camelCase s ++ t) where
  ne_nil := by simp [ht.ne_nil]
  parts := by
    rw [String.toList_append, List.forall_mem_append, camelCase, String.toList_ofList]
    exact ⟨isIdentifierPart_camelChars hs, ht.parts⟩

theorem suffix_schemaConst (n : Naming) : "Schema".toList <:+ n.schemaConst.toList := by
  rw [Naming.schemaConst, String.toList_append]
  exact List.suffix_append _ _

theorem suffix_apiSlice (n : Naming) : "Api".toList <:+ n.apiSlice.toList := by
  rw [Naming.apiSlice, String.toList_append]
  exact List.suffix_append _ _

theorem isWord_schemaConst (hn : e.naming.OfParts) : IsWord e.naming.schemaConst :=
  isWord_camelCase_append hn.singular (by decide)

/-- The model has two statements that declare nothing. -/
theorem regular_model (hn : e.naming.OfParts) : ∀ i ∈ (model e).items, i.Regular := by
  have hvalue : (Declaration.value ("mongoose.models." ++ e.naming.modelName
      ++ " || mongoose.model('" ++ e.naming.modelName ++ "', " ++ e.naming.schemaConst
      ++ ")")).Regular := by
    have hdot : "mongoose.models." = "mongoose" ++ "." ++ "models." := rfl
    refine ⟨"mongoose", "models." ++ (e.naming.modelName ++ (" || mongoose.model('"
      ++ (e.naming.modelName ++ ("', " ++ (e.naming.schemaConst ++ ")"))))), ?_, by decide,
      by decide⟩
    rw [hdot]
    simp only [String.append_assoc]
  have hindex : ∀ i ∈ (indexSection e).flatten, i.Regular := by
    unfold indexSection
    split
    · simp
    · have hdot : ".index(" = "." ++ "index(" := rfl
      have hother : ∀ w ∈ "import" :: modifiers ++ keywords, ¬"Schema".toList <:+ w.toList := by
        decide
      rw [List.flatten_singleton, List.forall_mem_singleton]
      refine ⟨e.naming.schemaConst, "index(" ++ (object (indexMembers e) ++ ");"), ?_,
        isWord_schemaConst hn, fun hmem => hother _ hmem (suffix_schemaConst e.naming)⟩
      rw [hdot]
      simp only [String.append_assoc]
  have hlibrary : (⟨some "mongoose", ["Schema"], "mongoose", false⟩ : Import).Regular :=
    ⟨fun htall => absurd htall Bool.false_ne_true, by decide⟩
  have hgaps : isGap ' ' = true ∧ isGap ')' = true := by decide
  simp only [File.items, model, List.flatten_append, List.forall_mem_append]
  exact ⟨⟨by simp [StartsApart, hgaps, hlibrary], hindex⟩, by simpa using hvalue⟩

/-- **Nothing around the names in a module can be taken for a name.** -/
theorem regular_of_single? (hn : e.naming.OfParts) {p : Part} {path : Path} {f : File}
    (h : p.single? e = some (path, .source f)) : ∀ i ∈ f.items, i.Regular := by
  have hpickers := regular_pickerImports e
  have hcontroller : (⟨none, Operation.all.map e.naming.operationName, "./controller", true⟩ :
      Import).Regular := ⟨fun _ => rfl, by simp⟩
  have hgaps : isGap ' ' = true ∧ isGap ':' = true ∧ isGap '}' = true ∧ isGap ']' = true := by
    decide
  cases p with
  | sliceSchema | pickers => simp [Part.single?] at h
  | model =>
    obtain rfl := source_eq rfl h
    exact regular_model hn
  | controller =>
    obtain rfl := source_eq rfl h
    simp [File.items, controller, handlerType, formatResponse, withDatabase, escapeRegex,
      dateRangeFilter, listHandler, getByIdHandler, addHandler, updateHandler, deleteHandler,
      bulkUpdateHandler, bulkDeleteHandler, summaryHandler, handlerConst, Declaration.Regular,
      StartsApart, hgaps]
  | route | querySlice | uiStore | entityData | page =>
    obtain rfl := source_eq rfl h
    simp [File.items, route, methodHandler, queryClient, listParameters, toSearch, apiSliceConst,
      uiStore, modalName, dateRange, storeInterface, closedModals, storeHook, entityData, listPage,
      clientDirective, reactImport, pageComponents, componentImport, Declaration.Regular,
      StartsApart, hgaps, hcontroller]
  | view | delete | table | bulkDelete | filter | summary | exportData =>
    obtain rfl := source_eq rfl h
    simp [File.items, viewDialog, deleteDialog, tableView, columns, bulkDeleteDialog, filterDialog,
      summaryDialog, exportDialog, headers, csvCell, toCsv, download, errorMessage, clientDirective,
      reactImport, storeImport, operationImport, dataImport, Declaration.Regular, StartsApart,
      hgaps]
  | add | edit | bulkEdit | bulkUpdate | bulkDynamicUpdate =>
    obtain rfl := source_eq rfl h
    simpa [File.items, addDialog, editDialog, bulkEditDialog, bulkUpdateDialog,
      bulkDynamicUpdateDialog, draftImports, errorMessage, clientDirective, reactImport,
      storeImport, operationImport, dataImport, or_imp, forall_and, Declaration.Regular,
      StartsApart, hgaps] using hpickers

/-- **All names in a module are words.** -/
theorem isWord_of_mem_binds (hn : e.naming.OfParts) (hp : IsCapitalized e.naming.plural) {p : Part}
    {path : Path} {f : File} (h : p.single? e = some (path, .source f)) :
    ∀ n ∈ f.binds, IsWord n := by
  have hplural : IsWord e.naming.plural :=
    ⟨fun hnil => by simp [IsCapitalized, hnil] at hp, hn.plural⟩
  intro n hmem
  rcases List.mem_append.mp ((binds_perm h).mem_iff.mp hmem) with hcamel | hplain
  · cases p with
    | model =>
      obtain rfl := List.mem_singleton.mp hcamel
      exact isWord_schemaConst hn
    | querySlice =>
      obtain rfl := List.mem_singleton.mp hcamel
      exact isWord_camelCase_append hn.plural (by decide)
    | _ => exact absurd hcamel List.not_mem_nil
  · obtain ⟨x, hx, rfl⟩ := List.mem_map.mp hplain
    exact NamePattern.isWord_name (isPlain_of_mem_bindingPatterns x hx) hplural

/-- So are those in the components that fields are edited with. -/
theorem isWord_of_mem_pickerBinds (p : Picker) :
    ∀ n ∈ (pickerFile p (pickerBody p)).binds, IsWord n := by
  cases p <;> decide +kernel

theorem regular_pickerFile (p : Picker) :
    ∀ i ∈ (pickerFile p (pickerBody p)).items, i.Regular := by
  have hgap : isGap ' ' = true := by decide
  have hstyle : ({ source := "react-quill/dist/quill.snow.css" } : Import).Regular :=
    ⟨fun _ => rfl, by decide⟩
  cases p <;>
    simp [File.items, pickerFile, pickerImportSections, pickerHooks, Declaration.Regular,
      StartsApart, hgap, hstyle]

/-! ## Names that are bound twice -/

/-- The name of the database schema is that of the library function if nothing is left of it. -/
theorem schemaConst_mem_iff (n : Naming) :
    n.schemaConst ∈ ["mongoose", "Schema"] ↔ n.singularCamel = "" := by
  have hne : n.schemaConst ≠ "mongoose" := by
    intro he
    have hsuffix := suffix_schemaConst n
    rw [he] at hsuffix
    exact absurd hsuffix (by decide)
  have hself : n.schemaConst = "Schema" ↔ n.singularCamel = "" := by
    rw [Naming.schemaConst, ← String.toList_inj, String.toList_append, List.append_left_eq_self,
      String.toList_eq_nil_iff]
  simp [hne, hself]

theorem apiSlice_ne_interfaceName {n : Naming} (hn : n.OfParts) (hp : IsCapitalized n.plural) :
    n.apiSlice ≠ n.interfaceName := by
  obtain ⟨c, hc, hupper⟩ := (Option.any_eq_true ..).mp hp
  obtain ⟨rest, hrest⟩ := List.head?_eq_some_iff.mp hc
  have hpart : isIdentifierPart c = true := hn.plural c (hrest ▸ List.mem_cons_self)
  have hlower : c.isUpper = true → c ≠ '_' ∧ asciiLower c ≠ 'I' :=
    forall_isIdentifierPart (p := fun c => c.isUpper = true → c ≠ '_' ∧ asciiLower c ≠ 'I')
      (by decide) hpart
  have hhead : n.apiSlice.toList.head? = some (asciiLower c) := by
    rw [Naming.apiSlice, String.toList_append, List.head?_append, Naming.pluralCamel, camelCase,
      String.toList_ofList, head?_camelChars hn.plural, hrest,
      List.find?_cons_of_pos (by simpa using (hlower hupper).1)]
    rfl
  intro he
  have hinterface : n.interfaceName.toList.head? = some 'I' := by simp [Naming.interfaceName]
  rw [he, hinterface] at hhead
  exact (hlower hupper).2 (Option.some.inj hhead).symm

theorem apiSlice_ne_hook (n : Naming) (o : Operation) : n.apiSlice ≠ n.hook o := by
  intro he
  have hapi : "Api".toList <:+ (n.hook o).toList := he ▸ suffix_apiSlice n
  have hbuilder : (capitalizeAscii o.builder).toList <:+ (n.hook o).toList := by
    rw [Naming.hook, Naming.endpoint, String.toList_append]
    exact List.suffix_append _ _
  have hnone : ∀ o ∈ Operation.all, ¬"Api".toList <:+ (capitalizeAscii o.builder).toList ∧
      ¬(capitalizeAscii o.builder).toList <:+ "Api".toList := by decide
  obtain ⟨hno, hno'⟩ := hnone o (Operation.mem_all o)
  exact (List.suffix_or_suffix_of_suffix hapi hbuilder).elim hno hno'

/-- The object with the operations is named like the library function for one plural. -/
theorem apiSlice_mem_iff {n : Naming} (hn : n.OfParts) (hp : IsCapitalized n.plural)
    (ps : List Picker) :
    n.apiSlice ∈ (bindingPatterns ps .querySlice).map (NamePattern.name n.plural) ↔
      n.pluralCamel = "create" := by
  have hfixed : ∀ s ∈ ["fetchBaseQuery", "ListQueryParams", "toSearch"], n.apiSlice ≠ s := by
    have hnone : ∀ s ∈ ["fetchBaseQuery", "ListQueryParams", "toSearch"],
        ¬"Api".toList <:+ s.toList := by decide
    intro s hs he
    exact hnone s hs (he ▸ suffix_apiSlice n)
  have hself : n.apiSlice = "createApi" ↔ n.pluralCamel = "create" := by
    have hsplit : "createApi" = "create" ++ "Api" := rfl
    rw [Naming.apiSlice, hsplit, ← String.toList_inj, String.toList_append, String.toList_append,
      List.append_left_inj, String.toList_inj]
  have hhooks : n.apiSlice ∉ Operation.all.map n.hook := by
    intro hmem
    obtain ⟨o, -, ho⟩ := List.mem_map.mp hmem
    exact apiSlice_ne_hook n o ho.symm
  simp only [List.forall_mem_cons] at hfixed
  rw [bindingPatterns, List.map_append, names_hooks, List.mem_append]
  simp [hself, hhooks, hfixed, apiSlice_ne_interfaceName hn hp]

/-- **A module binds each name once**, unless a name of the entity is one that it has already. -/
theorem nodup_binds_iff (hn : e.naming.OfParts) (hp : IsCapitalized e.naming.plural) {p : Part}
    {path : Path} {f : File} (h : p.single? e = some (path, .source f)) :
    f.binds.Nodup ↔ ¬Collides e.naming p := by
  have hnames (hnot : e.naming.plural ∉ takenPlurals p) :=
    nodup_names (pairwise_bindingPatterns e p) hp hnot
  rw [(binds_perm h).nodup_iff]
  cases p with
  | sliceSchema | pickers => simp [Part.single?] at h
  | model =>
    have hlibrary : (bindingPatterns e.pickers .model).map (NamePattern.name e.naming.plural) =
        ["mongoose", "Schema"] := rfl
    rw [camelNames, List.singleton_append, List.nodup_cons, hlibrary, schemaConst_mem_iff]
    exact and_iff_left (by decide)
  | querySlice =>
    rw [camelNames, List.singleton_append, List.nodup_cons, apiSlice_mem_iff hn hp]
    exact and_iff_left (hnames List.not_mem_nil)
  | controller =>
    constructor
    · -- The plural itself is among the names.
      intro hnodup hcollides
      simp only [camelNames, bindingPatterns, List.nil_append, List.cons_append, List.map_cons,
        name_fixed, name_modelPattern, Naming.modelName, List.nodup_cons, List.mem_cons,
        not_or] at hnodup
      rcases hcollides with hplural | hplural
      · exact hnodup.1.2.1 hplural.symm
      · exact hnodup.2.2.1.1 hplural
    · intro hno
      refine hnames fun hmem => hno ?_
      simpa [takenPlurals, Collides] using hmem
  | _ => exact iff_of_true (hnames List.not_mem_nil) id

end EntitySlice.Slice
