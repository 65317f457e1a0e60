import EntitySlice.Proofs.Bindings
import EntitySlice.Proofs.NamingGrammar
import EntitySlice.Proofs.References
import EntitySlice.Proofs.Slice.ClientLines

/-!
# Hooks

The client library makes a hook for each endpoint and derives its name: that of the endpoint with a
capital, `use` before it and the kind of the endpoint behind it. The generator puts the names of the
hooks together itself. They are those that are derived from what stands in the text of the query
client, in its list of exports as well as in the modules that use them (`resolve_hooks`). For all
plurals, those that look like parts of such names too, no two of them are the same.

* `DerivesHooks` — what it means for a slice that its hooks are the derived ones
* `nodup_operationNames`, `nodup_hooks` — the names are told apart by what stands around the plural
* `flatMap_clientNames`, `exists_hookCall` — what a module imports of the query client, and calls
-/

namespace EntitySlice.Slice

open EntitySlice.Source EntitySlice.Text

/-! ## Distinct names -/

section

variable {n : Naming} (hp : IsCapitalized n.plural)

include hp

/-- **No two operations have the same name**, whatever the plural looks like. -/
theorem nodup_operationNames : (Operation.all.map n.operationName).Nodup := by
  have hapart : (Operation.all.map operationPattern).Pairwise (NamePattern.Apart []) := by
    decide +kernel
  rw [← names_operations]
  exact nodup_names hapart hp List.not_mem_nil

/-- **No two hooks have the same name.** -/
theorem nodup_hooks : (Operation.all.map n.hook).Nodup := by
  have hapart : (Operation.all.map hookPattern).Pairwise (NamePattern.Apart []) := by
    decide +kernel
  rw [← names_hooks]
  exact nodup_names hapart hp List.not_mem_nil

end

/-! ## Exports -/

/-- The file of the query client. -/
def clientFile (e : Entity) : SliceFile :=
  ⟨.querySlice, e.pageDir / "redux/rtk-api.ts", .source (queryClient e)⟩

theorem clientFile_mem (e : Entity) : clientFile e ∈ files e :=
  mem_files_of_singleFile? (p := .querySlice) rfl

/-- **The query client binds each hook once.** -/
theorem count_hook_clientFile {e : Entity} (hn : e.naming.OfParts)
    (hp : IsCapitalized e.naming.plural) (o : Operation) :
    (clientFile e).boundNames.count (e.naming.hook o) = 1 := by
  have hs : Part.querySlice.single? e =
      some ((clientFile e).path, .source (queryClient e)) := rfl
  have hread : (clientFile e).boundNames = (queryClient e).binds :=
    boundNames_lines (isWord_of_mem_binds hn hp hs) (regular_of_single? hn hs)
  have hnames : ((bindingPatterns e.pickers .querySlice).map
      (NamePattern.name e.naming.plural)).Nodup :=
    nodup_names (pairwise_bindingPatterns e .querySlice) hp List.not_mem_nil
  have hmem : e.naming.hook o ∈ (bindingPatterns e.pickers .querySlice).map
      (NamePattern.name e.naming.plural) := by
    rw [bindingPatterns, List.map_append, names_hooks]
    exact List.mem_append_right _ (List.mem_map_of_mem (Operation.mem_all o))
  -- The only other name, that of the object with the operations, is no hook.
  rw [hread, (binds_perm hs).count_eq, List.count_append, camelNames, List.count_singleton,
    List.count_eq_one_of_mem hnames hmem, if_neg (by simpa using apiSlice_ne_hook e.naming o)]

/-! ## Imports and calls -/

/-- The operations that the module of a part runs. -/
def Part.runs : Part → List Operation
  | .page => [.list]
  | .add => [.add]
  | .edit => [.update]
  | .delete => [.delete]
  | .bulkEdit | .bulkUpdate | .bulkDynamicUpdate => [.bulkUpdate]
  | .bulkDelete => [.bulkDelete]
  | .summary => [.summary]
  | _ => []

/-- Whether a module is the query client of the slice. -/
def isClientSource (source : String) : Bool :=
  "redux/rtk-api".toList.isSuffixOf source.toList

/-- The names that are imported from the query client. -/
def clientNames (i : Import) : List String :=
  if isClientSource i.source then i.names else []

/-- The names that the lines of a file import from the query client. -/
def SliceFile.importedHooks (f : SliceFile) : List String :=
  (importsIn f.written).flatMap clientNames

/-- What the modules of a slice import names from that is not the query client. -/
def otherSources : List String :=
  packages ++ ["../store/store", "../store/data/data", "./store/store", "./store/data/data",
    "./data/data", "./controller"]

/-- **A module imports the hooks of the operations that it runs**, and no others. -/
theorem flatMap_clientNames {e : Entity} {p : Part} {path : Path} {file : File}
    (h : p.single? e = some (path, .source file)) :
    file.imports.flatMap clientNames = p.runs.map e.naming.hook := by
  have hclient : isClientSource "../redux/rtk-api" = true ∧
      isClientSource "./redux/rtk-api" = true := by decide
  have hother : ∀ s ∈ otherSources, isClientSource s = false := by decide +kernel
  have hpicker (p : Picker) : (pickerImport p).names = [] := rfl
  have hcomponent (c : String) : (componentImport c).names = [] := rfl
  simp only [otherSources, packages, List.forall_mem_append, List.forall_mem_cons] at hother
  cases p with
  | sliceSchema | pickers => simp [Part.single?] at h
  | model =>
    obtain rfl := source_eq rfl h
    have hindex : (indexSection e).flatten.filterMap Item.import? = [] := by
      unfold indexSection
      split <;> rfl
    simp [File.imports, File.items, model, hindex, Item.import?, List.filterMap_cons, clientNames,
      hother, Part.runs]
  | controller | route | querySlice | uiStore | entityData =>
    obtain rfl := source_eq rfl h
    simp [File.imports, File.items, controller, route, queryClient, uiStore, entityData,
      Item.import?, List.filterMap_cons, clientNames, Import.named, Import.byDefault, hother,
      Part.runs]
  | page =>
    obtain rfl := source_eq rfl h
    simp [File.imports, File.items, listPage, clientDirective, reactImport, Item.import?,
      List.filterMap_cons, List.filterMap_map, Function.comp_def, List.flatMap_map, hcomponent,
      clientNames, Import.named, hother, hclient, Part.runs]
  | add | edit | bulkEdit | bulkUpdate | bulkDynamicUpdate =>
    obtain rfl := source_eq rfl h
    simp [File.imports, File.items, addDialog, editDialog, bulkEditDialog, bulkUpdateDialog,
      bulkDynamicUpdateDialog, draftImports, filterMap_import?_pickerImports, clientDirective,
      reactImport, storeImport, operationImport, dataImport, Item.import?, List.filterMap_cons,
      List.flatMap_map, hpicker, clientNames, Import.named, hother, hclient, Part.runs]
  | view | delete | table | bulkDelete | filter | summary | exportData =>
    obtain rfl := source_eq rfl h
    simp [File.imports, File.items, viewDialog, deleteDialog, tableView, bulkDeleteDialog,
      filterDialog, summaryDialog, exportDialog, clientDirective, reactImport, storeImport,
      operationImport, dataImport, Item.import?, List.filterMap_cons, clientNames, Import.named,
      hother, hclient, Part.runs]

/-- A statement that calls a hook and takes what it gives. -/
def hookCall (hook taken arguments : String) : String :=
  "const " ++ taken ++ " = " ++ hook ++ "(" ++ arguments

/-- **A module calls the hook of each operation that it runs.** -/
theorem exists_hookCall {e : Entity} {p : Part} {path : Path} {file : File}
    (h : p.single? e = some (path, .source file)) {o : Operation} (ho : o ∈ p.runs) :
    ∃ taken arguments, HasCode file.lines (hookCall (e.naming.hook o) taken arguments) := by
  have hmutation : takeMutation e.naming o =
      hookCall (e.naming.hook o) ("[" ++ e.naming.operationName o ++ r", { isLoading }]") ");" := by
    simp [takeMutation, hookCall, ← String.toList_inj]
  have hquery (rest : String) : r"const { data, isLoading, isError } = " ++ e.naming.hook o
      ++ ("(" ++ rest) = hookCall (e.naming.hook o) r"{ data, isLoading, isError }" rest := by
    simp [hookCall, ← String.toList_inj]
  have hne : takeMutation e.naming o ≠ "" := by simp [takeMutation]
  -- In the dialogs it is the second statement of the first group.
  have hdialog {f : File} {name first : String} {more : List String} {groups : List (List Line)}
      (hf : f.sections.getLast? = some [.declared (.main name "" (paragraphs groups))])
      (hg : groups[0]? = some (code (first :: takeMutation e.naming o :: more))) :
      ∃ taken arguments, HasCode f.lines (hookCall (e.naming.hook o) taken arguments) := by
    have hcode : HasCode f.lines (takeMutation e.naming o) :=
      .of_main hf (List.mem_of_getElem? hg) (.of_code (by simp) hne)
    exact ⟨_, _, hmutation ▸ hcode⟩
  cases p with
  | page =>
    obtain rfl := source_eq rfl h
    obtain rfl := List.mem_singleton.mp ho
    have hcode : HasCode (listPage e).lines
        (r"const { data, isLoading, isError } = " ++ e.naming.hook .list ++ r"({") :=
      .of_main (f := listPage e) rfl (List.mem_of_getElem? (i := 2) rfl) ⟨0, List.mem_cons_self⟩
    exact ⟨_, _, hquery "\x7b" ▸ hcode⟩
  | summary =>
    obtain rfl := source_eq rfl h
    obtain rfl := List.mem_singleton.mp ho
    have hcode : HasCode (summaryDialog e).lines
        (r"const { data, isLoading, isError } = " ++ e.naming.hook .summary ++ "(") :=
      .of_main (f := summaryDialog e) rfl (List.mem_of_getElem? (i := 0) rfl)
        (.append_right ⟨0, List.mem_cons_self⟩ _)
    exact ⟨_, _, hquery "" ▸ hcode⟩
  | add | edit | delete | bulkEdit | bulkUpdate | bulkDynamicUpdate | bulkDelete =>
    obtain rfl := source_eq rfl h
    obtain rfl := List.mem_singleton.mp ho
    exact hdialog rfl rfl
  | _ => exact absurd ho List.not_mem_nil

/-! ## All files -/

/-- The files of a slice import and call the hooks of the operations that they run. -/
theorem hooks_of_mem_files {e : Entity} {f : SliceFile} (hf : f ∈ files e) :
    f.imports.flatMap clientNames = f.part.runs.map e.naming.hook ∧
      ∀ o ∈ f.part.runs, ∃ taken arguments,
        HasCode f.lines (hookCall (e.naming.hook o) taken arguments) := by
  rcases List.mem_append.mp hf with hf | hf
  · obtain ⟨p, -, hfile⟩ := List.mem_filterMap.mp hf
    obtain ⟨⟨path, content⟩, hs, rfl⟩ := Option.map_eq_some_iff.mp hfile
    cases content with
    | document v =>
      have hp : p = .sliceSchema := by
        by_contra hne
        obtain ⟨file, hsource⟩ := exists_source_of_single? hne hs
        cases hsource
      subst hp
      exact ⟨rfl, fun o ho => absurd ho List.not_mem_nil⟩
    | source file => exact ⟨flatMap_clientNames hs, fun o ho => exists_hookCall hs ho⟩
  · obtain ⟨q, -, rfl⟩ := List.mem_map.mp hf
    have himports : ∀ q, (pickerFile q (pickerBody q)).imports.flatMap clientNames = [] := by
      intro q
      cases q <;> decide +kernel
    exact ⟨himports q, fun o ho => absurd ho List.not_mem_nil⟩

/-- Whether the hooks of a slice are those that are derived from what its query client defines. -/
structure DerivesHooks (e : Entity) (client : SliceFile) : Prop where
  /-- The text of the query client defines one endpoint for each operation, and no other. -/
  defined : definedEndpoints client.content.text =
    Operation.all.map (operationEndpoint e.naming)
  /-- No name is defined twice. -/
  nodup : ((definedEndpoints client.content.text).map Prod.fst).Nodup
  /-- The text ends with the list of the hooks that are derived for its endpoints. -/
  exported : ∃ before, textLines client.content.text =
    before ++ exportTexts ((definedEndpoints client.content.text).map derivedHook)
      e.naming.apiSlice ++ [""]
  /-- Each of these hooks is bound there once. -/
  bound : ∀ d ∈ definedEndpoints client.content.text, client.boundNames.count (derivedHook d) = 1
  /-- A file imports the hooks that are derived for the operations that it runs, and no others. -/
  imported : ∀ f ∈ files e, f.importedHooks =
    (f.part.runs.map (operationEndpoint e.naming)).map derivedHook
  /-- It calls each of them. -/
  called : ∀ f ∈ files e, ∀ o ∈ f.part.runs, ∃ taken arguments, HasCode f.lines
    (hookCall (derivedHook (operationEndpoint e.naming o)) taken arguments)

/-- **The hooks of a slice are derived from what its query client defines.** -/
theorem derivesHooks_clientFile {e : Entity} (hn : e.naming.OfParts)
    (hp : IsCapitalized e.naming.plural) : DerivesHooks e (clientFile e) := by
  have hdefined : definedEndpoints (clientFile e).content.text =
      Operation.all.map (operationEndpoint e.naming) := definedEndpoints_queryClient hn
  have hderived (os : List Operation) :
      (os.map (operationEndpoint e.naming)).map derivedHook = os.map e.naming.hook := by
    rw [List.map_map]
    exact List.map_congr_left fun o _ => (hook_eq_derivedHook e.naming o).symm
  constructor
  case defined => exact hdefined
  case nodup =>
    rw [hdefined, List.map_map]
    exact nodup_operationNames hp
  case exported =>
    rw [hdefined, hderived]
    exact textLines_queryClient hn
  case bound =>
    rw [hdefined, List.forall_mem_map]
    intro o _
    rw [← hook_eq_derivedHook]
    exact count_hook_clientFile hn hp o
  case imported =>
    intro f hf
    rw [hderived, SliceFile.importedHooks, importsIn_written hn hp hf]
    exact (hooks_of_mem_files hf).1
  case called =>
    intro f hf o ho
    rw [← hook_eq_derivedHook]
    exact (hooks_of_mem_files hf).2 o ho

end EntitySlice.Slice

namespace EntitySlice

open EntitySlice.Slice

/--
**The hooks of every slice follow from its endpoints.** For all names that can be resolved, no two
operations share a name and no two hooks do, and every slice with these names has the hooks that the
client library derives.
-/
theorem resolve_hooks {keys : NamingKeys} {block : Json.Members} {n : Naming} {ws : List Warning}
    (h : Naming.resolve keys block = .ok (n, ws)) :
    (n.endpoints.map Endpoint.name).Nodup ∧ (n.endpoints.map Endpoint.hook).Nodup ∧
      ∀ e : Entity, e.naming = n →
        ∃ client ∈ files e, client.part = .querySlice ∧ DerivesHooks e client := by
  have hn := ofParts_of_resolve h
  have hp := isCapitalized_of_resolve h
  refine ⟨?_, ?_, ?_⟩
  · rw [Naming.endpoints, List.map_map]
    exact nodup_operationNames hp
  · rw [Naming.endpoints, List.map_map]
    exact nodup_hooks hp
  · rintro e rfl
    exact ⟨clientFile e, clientFile_mem e, rfl, derivesHooks_clientFile hn hp⟩

/-- With this plural the hook for the list looks like that for one record of another entity. -/
theorem resolve_hooks_byId :
    ∃ n ws, Naming.resolve {} (postsBlock "byId") = .ok (n, ws) ∧
      (n.endpoints.map Endpoint.name).Nodup ∧ (n.endpoints.map Endpoint.hook).Nodup ∧
      ∃ client ∈ files ⟨n, [], .null⟩, client.part = .querySlice ∧
        DerivesHooks ⟨n, [], .null⟩ client ∧
        ((definedEndpoints client.content.text).take 2).map derivedHook =
          ["useGetByIdQuery", "useGetByIdByIdQuery"] := by
  have hresolve : ∃ ws, Naming.resolve {} (postsBlock "byId") = .ok (⟨"ById", "_post", true⟩, ws) :=
    ⟨_, rfl⟩
  obtain ⟨ws, hresolve⟩ := hresolve
  obtain ⟨hnames, hhooks, hall⟩ := resolve_hooks hresolve
  obtain ⟨client, hmem, hpart, hclient⟩ := hall ⟨_, [], .null⟩ rfl
  refine ⟨_, ws, hresolve, hnames, hhooks, client, hmem, hpart, hclient, ?_⟩
  rw [hclient.defined]
  decide

end EntitySlice
