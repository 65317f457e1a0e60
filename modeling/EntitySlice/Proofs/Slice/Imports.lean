import EntitySlice.Proofs.Source.Modules

/-!
# The imports of the modules of a slice

The modules of a slice import names from each other. Wherever two of them lie, the way that is
written in an import leads to one file of the slice and no other (`LeadsTo`), and that file exports
what is asked for. `isResolved_of_single?` goes through the modules one after the other.
-/

namespace EntitySlice.Slice

open EntitySlice.Source

/-! ## References -/

/--
Whether an import leads from a directory of a slice to the file at `names`, and to no other place at
which a slice can have a file.
-/
def LeadsTo (dir : List String) (source : String) (names : List String) : Prop :=
  (∀ ending ∈ moduleEndings, staysBelow dir (⟨source ++ ending⟩ : Path).components = true) ∧
    ∀ other ∈ places, other ∈ candidates dir source ↔ other = names

instance (dir : List String) (source : String) (names : List String) :
    Decidable (LeadsTo dir source names) :=
  inferInstanceAs (Decidable (_ ∧ _))

/-- The ways that the modules write in imports of each other: from where, how, and to where. -/
def ways : List (List String × String × List String) :=
  [(componentNames, "../store/store", Part.uiStore.names),
    (componentNames, "../redux/rtk-api", Part.querySlice.names),
    (componentNames, "../store/data/data", Part.entityData.names),
    (pageNames, "./redux/rtk-api", Part.querySlice.names),
    (pageNames, "./store/store", Part.uiStore.names),
    (pageNames, "./store/data/data", Part.entityData.names),
    (["api", "v1"], "./model", Part.model.names),
    (["api", "v1"], "./controller", Part.controller.names),
    (["all", "redux"], "../store/data/data", Part.entityData.names),
    (["all", "store"], "./data/data", Part.entityData.names)]
    ++ allPickers.map fun p =>
      (componentNames, "./others-field-type/" ++ p.component, pickerNames p)

/-- The places that an import can mean when its way has these characters. -/
def charCandidates (dir : List String) (cs : List Char) : List (List String) :=
  moduleEndings.map fun ending => placeFrom dir (Path.charComponents (cs ++ ending.toList))

/--
Whether a way with these characters leads to the file at `names`: that is among the places it can
mean, and no other of them is one at which a slice can have a file.
-/
def LeadsByChars (dir : List String) (cs : List Char) (names : List String) : Prop :=
  (∀ ending ∈ moduleEndings,
    staysBelow dir (Path.charComponents (cs ++ ending.toList)) = true) ∧
    names ∈ charCandidates dir cs ∧
      ∀ other ∈ charCandidates dir cs, other ∈ places → other = names

instance (dir : List String) (cs : List Char) (names : List String) :
    Decidable (LeadsByChars dir cs names) :=
  inferInstanceAs (Decidable (_ ∧ _))

/-- A way can be looked at by its characters, which a literal has at hand. -/
theorem leadsTo_of_chars {dir : List String} {source : String} {names : List String}
    {cs : List Char} (hcs : source.toList = cs) (h : LeadsByChars dir cs names) :
    LeadsTo dir source names := by
  have hcomponents (ending : String) :
      (⟨source ++ ending⟩ : Path).components = Path.charComponents (cs ++ ending.toList) :=
    Path.components_of_chars (toList_append_eq rfl hcs)
  have hcandidates : candidates dir source = charCandidates dir cs := by
    rw [candidates, charCandidates]
    simp only [hcomponents]
  obtain ⟨hbelow, hnames, honly⟩ := h
  refine ⟨fun ending hending => ?_, fun other hother => ?_⟩
  · rw [hcomponents]
    exact hbelow ending hending
  · rw [hcandidates]
    constructor
    · exact fun hmem => honly other hmem hother
    · rintro rfl
      exact hnames

/-- **Each of these ways leads to one place of a slice.** -/
theorem leadsTo_of_mem_ways {dir : List String} {source : String} {names : List String}
    (h : (dir, source, names) ∈ ways) : LeadsTo dir source names := by
  rw [ways, List.mem_append, List.mem_map] at h
  rcases h with h | ⟨p, -, h⟩
  · simp only [List.mem_cons, List.not_mem_nil, or_false, Prod.mk.injEq] at h
    rcases h with ⟨rfl, rfl, rfl⟩ | ⟨rfl, rfl, rfl⟩ | ⟨rfl, rfl, rfl⟩ | ⟨rfl, rfl, rfl⟩ |
      ⟨rfl, rfl, rfl⟩ | ⟨rfl, rfl, rfl⟩ | ⟨rfl, rfl, rfl⟩ | ⟨rfl, rfl, rfl⟩ | ⟨rfl, rfl, rfl⟩ |
      ⟨rfl, rfl, rfl⟩ <;> exact leadsTo_of_chars String.toList_ofList (by decide +kernel)
  · simp only [Prod.mk.injEq] at h
    obtain ⟨rfl, rfl, rfl⟩ := h
    cases p <;> exact leadsTo_of_chars (toList_append_eq String.toList_ofList String.toList_ofList)
      (by decide +kernel)

/-- The lines of a module; a document has none. -/
def SliceFile.lines (f : SliceFile) : List Line :=
  match f.content with
  | .document _ => []
  | .source file => file.lines

/-- The lines of a module as they are written. -/
def SliceFile.written (f : SliceFile) : List String := f.lines.map Line.text

/-- Whether an import of a module in a directory of the slice is served by a file of the slice. -/
structure Reference (e : Entity) (dir : List String) (i : Import) (g : SliceFile) : Prop where
  mem : g ∈ files e
  leads : ∃ names, g.path.components = componentsAt e names ∧ LeadsTo dir i.source names
  served : i.ServedBy g.written

/-- Whether an item is no import of a module of the slice, or one that is served. -/
def IsResolved (e : Entity) (dir : List String) : Item → Prop
  | .imported i => i.isRelative = true → ∃ g, Reference e dir i g
  | _ => True

variable {e : Entity} {dir : List String} {i : Import}

theorem reference_of_single? {q : Part} {path : Path} {f : File}
    (h : q.single? e = some (path, .source f)) (hl : LeadsTo dir i.source q.names)
    (hs : i.ServedBy (f.lines.map Line.text)) : ∃ g, Reference e dir i g :=
  have hfile : q.singleFile? e = some ⟨q, path, .source f⟩ := by
    rw [Part.singleFile?, h]
    rfl
  ⟨_, mem_files_of_singleFile? hfile, ⟨q.names, Part.components_of_single? e h, hl⟩, hs⟩

/-- An import of names is served when each of them is exported. -/
theorem servedBy_named {names : List String} {source : String} {lines : List String}
    (h : ∀ n ∈ names, ExportedIn lines n) : (Import.named names source).ServedBy lines where
  default := fun hd => absurd rfl hd
  names := h

/-- An import of the default export is served when there is one. -/
theorem servedBy_byDefault {name source : String} {lines : List String} (h : HasDefault lines) :
    (Import.byDefault name source).ServedBy lines where
  default := fun _ => h
  names := fun _ hn => absurd hn List.not_mem_nil

/-! ## What the modules offer -/

variable (e)

/-- The module of the shape of the records offers their interface, a new record and its checks. -/
theorem exportedIn_entityData :
    ∀ n ∈ [e.naming.interfaceName, e.naming.defaultConst, e.naming.validateFn],
      ExportedIn ((entityData e).lines.map Line.text) n := by
  rw [List.forall_mem_cons, List.forall_mem_cons, List.forall_mem_singleton]
  refine ⟨?_, ?_, ?_⟩
  · exact File.exportedIn_interface (f := entityData e) (List.mem_of_getElem? (i := 1) rfl)
  · refine File.exportedIn_const (f := entityData e) (List.mem_of_getElem? (i := 2) rfl)
      ⟨"(): " ++ e.naming.interfaceName ++ r" => ({", ?_⟩
    rw [← String.append_assoc, ← String.append_assoc]
    rfl
  · refine File.exportedIn_const (f := entityData e) (List.mem_of_getElem? (i := 3) rfl)
      ⟨"(item: Partial<" ++ e.naming.interfaceName ++ r">): string[] => {", ?_⟩
    rw [← String.append_assoc, ← String.append_assoc]
    rfl

theorem exportedIn_uiStore :
    ExportedIn ((uiStore e).lines.map Line.text) e.naming.storeHook := by
  refine File.exportedIn_const (f := uiStore e) (List.mem_of_getElem? (i := 7) rfl)
    ⟨"create<" ++ e.naming.storeInterface ++ r">((set) => ({", ?_⟩
  rw [← String.append_assoc, ← String.append_assoc]
  rfl

/-- The query client offers the hook of every operation. -/
theorem exportedIn_queryClient (o : Operation) :
    ExportedIn ((queryClient e).lines.map Line.text) (e.naming.hook o) :=
  File.exportedIn_members (f := queryClient e) (List.mem_of_getElem? (i := 6) rfl)
    (List.mem_map_of_mem (Operation.mem_all o))

/-- The function of the controller for an operation. -/
def operationHandler : Operation → Declaration
  | .list => listHandler e
  | .getById => getByIdHandler e
  | .add => addHandler e
  | .update => updateHandler e
  | .delete => deleteHandler e
  | .bulkUpdate => bulkUpdateHandler e
  | .bulkDelete => bulkDeleteHandler e
  | .summary => summaryHandler e

/-- The controller offers the function of every operation. -/
theorem exportedIn_controller (o : Operation) :
    ExportedIn ((controller e).lines.map Line.text) (e.naming.operationName o) := by
  -- The functions come last, one for each operation and in the order of the operations.
  have hlast : (controller e).items.drop 9 =
      Operation.all.map fun o => .declared (operationHandler e o) := rfl
  have hmem : .declared (operationHandler e o) ∈ (controller e).items := by
    apply List.mem_of_mem_drop (i := 9)
    rw [hlast]
    exact List.mem_map_of_mem (Operation.mem_all o)
  have hconst : ∃ body, operationHandler e o = handlerConst e o body := by
    cases o <;> exact ⟨_, rfl⟩
  obtain ⟨body, hbody⟩ := hconst
  rw [hbody] at hmem
  exact File.exportedIn_const hmem ⟨r"withDB(async (req: Request) => {", rfl⟩

theorem hasDefault_model : HasDefault ((model e).lines.map Line.text) :=
  File.hasDefault_value (f := model e) <| List.mem_flatten.mpr
    ⟨_, List.mem_append_right _ (List.mem_singleton_self _), List.mem_singleton_self _⟩

/-! ## Imports of the components -/

variable {e}

@[simp] theorem isResolved_directive (text : String) : IsResolved e dir (.directive text) := trivial

@[simp] theorem isResolved_comment (text : String) : IsResolved e dir (.comment text) := trivial

@[simp] theorem isResolved_declared (d : Declaration) : IsResolved e dir (.declared d) := trivial

/-- What the modules import that is in no slice. -/
def packages : List String :=
  ["react", "next/dynamic", "react-quill/dist/quill.snow.css", "next/server", "@/app/api/utils/db",
    "mongoose", "@reduxjs/toolkit/query/react", "zustand"]

/-- A package is not named by a way to it. -/
theorem isResolved_of_package (h : i.source ∈ packages) : IsResolved e dir (.imported i) := by
  intro hr
  have hnot : ∀ s ∈ packages, ({ source := s } : Import).isRelative = false := by decide
  rw [show i.isRelative = ({ source := i.source } : Import).isRelative from rfl, hnot _ h] at hr
  exact absurd hr Bool.false_ne_true

theorem isResolved_storeImport : IsResolved e componentNames (storeImport e.naming) := by
  have hl : LeadsTo componentNames "../store/store" Part.uiStore.names :=
    leadsTo_of_mem_ways (List.mem_of_getElem? (i := 0) rfl)
  intro _
  exact reference_of_single? rfl hl
    (servedBy_named (List.forall_mem_singleton.mpr (exportedIn_uiStore e)))

theorem isResolved_operationImport (o : Operation) :
    IsResolved e componentNames (operationImport e.naming o) := by
  have hl : LeadsTo componentNames "../redux/rtk-api" Part.querySlice.names :=
    leadsTo_of_mem_ways (List.mem_of_getElem? (i := 1) rfl)
  intro _
  exact reference_of_single? rfl hl
    (servedBy_named (List.forall_mem_singleton.mpr (exportedIn_queryClient e o)))

/-- A component can import what there is about the shape of the records. -/
theorem isResolved_dataImport {names : List String}
    (h : names ⊆ [e.naming.interfaceName, e.naming.defaultConst, e.naming.validateFn]) :
    IsResolved e componentNames (dataImport names) := by
  have hl : LeadsTo componentNames "../store/data/data" Part.entityData.names :=
    leadsTo_of_mem_ways (List.mem_of_getElem? (i := 2) rfl)
  intro _
  exact reference_of_single? rfl hl (servedBy_named fun n hn => exportedIn_entityData e n (h hn))

theorem leadsTo_pickerNames (p : Picker) :
    LeadsTo componentNames ("./others-field-type/" ++ p.component) (pickerNames p) := by
  have hp : p ∈ allPickers :=
    List.mem_filterMap.mpr ⟨p.widget, Widget.mem_all _, Picker.picker?_eq_some_iff.mpr rfl⟩
  exact leadsTo_of_mem_ways (List.mem_append_right _ (List.mem_map_of_mem hp))

/-- A component can import those that the fields are edited with. -/
theorem isResolved_pickerImports : ∀ i ∈ pickerImports e, IsResolved e componentNames i := by
  intro i hi
  obtain ⟨p, hp, rfl⟩ := List.mem_map.mp hi
  intro _
  refine ⟨pickerSliceFile e p, List.mem_append_right _ (List.mem_map_of_mem hp), ?_,
    servedBy_byDefault ?_⟩
  · exact ⟨pickerNames p, Part.components_pickerPath e p, leadsTo_pickerNames p⟩
  · have hmain : .declared (.main p.component (inBraces (propNames p) ++ ": " ++ propsName p)
        (pickerBody p)) ∈ (pickerFile p (pickerBody p)).items := by
      simp [pickerFile, File.items]
    exact File.hasDefault_main hmain

/-! ## Imports of the other modules -/

/-- The parts that are components of the page. -/
def componentParts : List Part :=
  [.add, .edit, .view, .delete, .bulkEdit, .bulkUpdate, .bulkDynamicUpdate, .bulkDelete, .filter,
    .exportData, .summary, .table]

/-- Each component of the page is one of these parts. -/
theorem exists_part_of_mem_pageComponents : ∀ c ∈ pageComponents, ∃ p ∈ componentParts,
    LeadsTo pageNames ("./components/" ++ c) p.names := by
  simp only [pageComponents, List.forall_mem_cons]
  refine ⟨⟨.add, by decide, ?_⟩, ⟨.edit, by decide, ?_⟩, ⟨.view, by decide, ?_⟩,
    ⟨.delete, by decide, ?_⟩, ⟨.bulkEdit, by decide, ?_⟩, ⟨.bulkUpdate, by decide, ?_⟩,
    ⟨.bulkDynamicUpdate, by decide, ?_⟩, ⟨.bulkDelete, by decide, ?_⟩, ⟨.filter, by decide, ?_⟩,
    ⟨.exportData, by decide, ?_⟩, ⟨.summary, by decide, ?_⟩, ⟨.table, by decide, ?_⟩,
    fun _ h => absurd h List.not_mem_nil⟩
  all_goals
    exact leadsTo_of_chars (toList_append_eq String.toList_ofList String.toList_ofList)
      (by decide +kernel)

/-- Each part that is a component has a default export. -/
theorem hasDefault_of_mem_componentParts {p : Part} (h : p ∈ componentParts) :
    ∃ path f, p.single? e = some (path, .source f) ∧ HasDefault (f.lines.map Line.text) := by
  cases p with
  | sliceSchema | model | controller | route | querySlice | uiStore | entityData | page
  | pickers => simp [componentParts] at h
  | _ => exact ⟨_, _, rfl, File.hasDefault_of_getLast? rfl⟩

theorem isResolved_componentImport {c : String} (h : c ∈ pageComponents) :
    IsResolved e pageNames (.imported (componentImport c)) := by
  intro _
  obtain ⟨p, hp, hl⟩ := exists_part_of_mem_pageComponents c h
  obtain ⟨path, f, hf, hd⟩ := hasDefault_of_mem_componentParts (e := e) hp
  exact reference_of_single? hf hl (servedBy_byDefault hd)

/-- The interface of the records can be imported where the way leads to their shape. -/
theorem isResolved_shapeImport {names : List String} {source : String}
    (h : names ⊆ [e.naming.interfaceName, e.naming.defaultConst, e.naming.validateFn])
    (hl : LeadsTo dir source Part.entityData.names) :
    IsResolved e dir (.imported (.named names source)) := by
  intro _
  exact reference_of_single? rfl hl (servedBy_named fun n hn => exportedIn_entityData e n (h hn))

/-- The imports of the components of the page. -/
theorem isResolved_of_mem_componentParts {p : Part} (hp : p ∈ componentParts) {path : Path}
    {f : File} (h : p.single? e = some (path, .source f)) :
    ∀ i ∈ f.items, IsResolved e p.names.dropLast i := by
  have hdir : ∀ p ∈ componentParts, p.names.dropLast = componentNames := by decide
  have hreact : ∀ names, IsResolved e componentNames (reactImport names) := fun _ =>
    isResolved_of_package (List.mem_of_getElem? (i := 0) rfl)
  have hpickers : ∀ i ∈ pickerImports e, IsResolved e componentNames i := isResolved_pickerImports
  rw [hdir p hp]
  -- The first five have imports for the fields besides those that all components choose from.
  cases p with
  | sliceSchema | model | controller | route | querySlice | uiStore | entityData | page
  | pickers => simp [componentParts] at hp
  | add | edit | bulkEdit | bulkUpdate | bulkDynamicUpdate =>
    obtain rfl := source_eq rfl h
    simpa [File.items, addDialog, editDialog, bulkEditDialog, bulkUpdateDialog,
      bulkDynamicUpdateDialog, clientDirective, draftImports, hreact, isResolved_storeImport,
      isResolved_operationImport, isResolved_dataImport, or_imp, forall_and] using hpickers
  | view | delete | table | bulkDelete | filter | summary | exportData =>
    obtain rfl := source_eq rfl h
    simp [File.items, viewDialog, deleteDialog, bulkDeleteDialog, filterDialog, exportDialog,
      summaryDialog, tableView, clientDirective, hreact, isResolved_storeImport,
      isResolved_operationImport, isResolved_dataImport]

/-- The page can import the interface, the hooks and its components. -/
theorem isResolved_listPage : ∀ i ∈ (listPage e).items, IsResolved e pageNames i := by
  have hreact : ∀ names, IsResolved e pageNames (reactImport names) := fun _ =>
    isResolved_of_package (List.mem_of_getElem? (i := 0) rfl)
  have hclient : IsResolved e pageNames
      (.imported (.named [e.naming.hook .list] "./redux/rtk-api")) := by
    have hl : LeadsTo pageNames "./redux/rtk-api" Part.querySlice.names :=
      leadsTo_of_mem_ways (List.mem_of_getElem? (i := 3) rfl)
    intro _
    exact reference_of_single? rfl hl
      (servedBy_named (List.forall_mem_singleton.mpr (exportedIn_queryClient e .list)))
  have hstore : IsResolved e pageNames
      (.imported (.named [e.naming.storeHook] "./store/store")) := by
    have hl : LeadsTo pageNames "./store/store" Part.uiStore.names :=
      leadsTo_of_mem_ways (List.mem_of_getElem? (i := 4) rfl)
    intro _
    exact reference_of_single? rfl hl
      (servedBy_named (List.forall_mem_singleton.mpr (exportedIn_uiStore e)))
  have hshape : IsResolved e pageNames
      (.imported (.named [e.naming.interfaceName] "./store/data/data")) :=
    isResolved_shapeImport (by simp) (leadsTo_of_mem_ways (List.mem_of_getElem? (i := 5) rfl))
  simp [File.items, listPage, clientDirective, hreact, hclient, hstore, hshape, or_imp, forall_and]
  intro c hc
  exact isResolved_componentImport hc

/-- The modules of the server can import each other. -/
theorem isResolved_controller : ∀ i ∈ (controller e).items, IsResolved e ["api", "v1"] i := by
  have hresponse : IsResolved e ["api", "v1"]
      (.imported (.named ["NextResponse"] "next/server")) := isResolved_of_package (by decide)
  have hconnect : IsResolved e ["api", "v1"]
      (.imported (.byDefault "connectDB" "@/app/api/utils/db")) :=
    isResolved_of_package (by decide)
  have hmodel : IsResolved e ["api", "v1"]
      (.imported (.byDefault e.naming.modelName "./model")) := by
    have hl : LeadsTo ["api", "v1"] "./model" Part.model.names :=
      leadsTo_of_mem_ways (List.mem_of_getElem? (i := 6) rfl)
    intro _
    exact reference_of_single? rfl hl (servedBy_byDefault (hasDefault_model e))
  simp [File.items, controller, hresponse, hconnect, hmodel]

theorem isResolved_route : ∀ i ∈ (route e).items, IsResolved e ["api", "v1"] i := by
  have hcontroller : IsResolved e ["api", "v1"] (.imported
      { names := Operation.all.map e.naming.operationName, source := "./controller",
        tall := true }) := by
    have hl : LeadsTo ["api", "v1"] "./controller" Part.controller.names :=
      leadsTo_of_mem_ways (List.mem_of_getElem? (i := 7) rfl)
    have hserved : ∀ n ∈ Operation.all.map e.naming.operationName,
        ExportedIn ((controller e).lines.map Line.text) n :=
      List.forall_mem_map.mpr fun o _ => exportedIn_controller e o
    intro _
    exact reference_of_single? rfl hl ⟨fun hd => absurd rfl hd, hserved⟩
  simp [File.items, route, methodHandler, hcontroller]

/-- The query client and the state can import the shape of the records. -/
theorem isResolved_queryClient :
    ∀ i ∈ (queryClient e).items, IsResolved e ["all", "redux"] i := by
  have hlibrary : IsResolved e ["all", "redux"]
      (.imported (.named ["createApi", "fetchBaseQuery"] "@reduxjs/toolkit/query/react")) :=
    isResolved_of_package (by decide)
  have hshape : IsResolved e ["all", "redux"]
      (.imported (.named [e.naming.interfaceName] "../store/data/data")) :=
    isResolved_shapeImport (by simp) (leadsTo_of_mem_ways (List.mem_of_getElem? (i := 8) rfl))
  simp [File.items, queryClient, hlibrary, hshape]

theorem isResolved_uiStore : ∀ i ∈ (uiStore e).items, IsResolved e ["all", "store"] i := by
  have hlibrary : IsResolved e ["all", "store"]
      (.imported (.named ["create"] "zustand")) := isResolved_of_package (by decide)
  have hshape : IsResolved e ["all", "store"]
      (.imported (.named [e.naming.interfaceName, e.naming.defaultConst] "./data/data")) :=
    isResolved_shapeImport (by simp) (leadsTo_of_mem_ways (List.mem_of_getElem? (i := 9) rfl))
  simp [File.items, uiStore, hlibrary, hshape]

/-- The shape of the records is told without imports. -/
theorem isResolved_entityData : ∀ i ∈ (entityData e).items, IsResolved e dir i := by
  simp [File.items, entityData]

/-- The model imports a package alone. -/
theorem isResolved_model : ∀ i ∈ (model e).items, IsResolved e dir i := by
  have hlibrary : IsResolved e dir
      (.imported { default? := some "mongoose", names := ["Schema"], source := "mongoose" }) :=
    isResolved_of_package (List.mem_of_getElem? (i := 5) rfl)
  have hindex : ∀ s ∈ indexSection e, ∀ i ∈ s, IsResolved e dir i := by
    unfold indexSection
    split <;> simp
  simp only [File.items, model, List.flatten_append, List.forall_mem_append,
    List.forall_mem_flatten]
  exact ⟨⟨by simp [hlibrary], hindex⟩, by simp⟩

/-- The components that fields are edited with import packages alone. -/
theorem isResolved_pickerFile (p : Picker) (body : List Line) :
    ∀ i ∈ (pickerFile p body).items, IsResolved e dir i := by
  have hreact : ∀ names, IsResolved e dir (.imported (.named names "react")) := fun _ =>
    isResolved_of_package (List.mem_of_getElem? (i := 0) rfl)
  have hdynamic : IsResolved e dir (.imported (.byDefault "dynamic" "next/dynamic")) :=
    isResolved_of_package (List.mem_of_getElem? (i := 1) rfl)
  have hstyle : IsResolved e dir (.imported { source := "react-quill/dist/quill.snow.css" }) :=
    isResolved_of_package (List.mem_of_getElem? (i := 2) rfl)
  cases p <;>
    simp [File.items, pickerFile, pickerImportSections, pickerHooks, hreact, hdynamic, hstyle]

/-! ## All imports -/

/-- **Every import of a part of the slice is served by a file of the slice.** -/
theorem isResolved_of_single? {p : Part} {path : Path} {f : File}
    (h : p.single? e = some (path, .source f)) :
    ∀ i ∈ f.items, IsResolved e p.names.dropLast i := by
  by_cases hp : p ∈ componentParts
  · exact isResolved_of_mem_componentParts hp h
  cases p with
  | sliceSchema | pickers => simp [Part.single?] at h
  | model =>
    obtain rfl := source_eq rfl h
    exact isResolved_model
  | controller =>
    obtain rfl := source_eq rfl h
    exact isResolved_controller
  | route =>
    obtain rfl := source_eq rfl h
    exact isResolved_route
  | querySlice =>
    obtain rfl := source_eq rfl h
    exact isResolved_queryClient
  | uiStore =>
    obtain rfl := source_eq rfl h
    exact isResolved_uiStore
  | entityData =>
    obtain rfl := source_eq rfl h
    exact isResolved_entityData
  | page =>
    obtain rfl := source_eq rfl h
    exact isResolved_listPage
  | _ => exact absurd (by decide) hp

/-- The imports of a file of a slice. -/
def SliceFile.imports (f : SliceFile) : List Import :=
  match f.content with
  | .document _ => []
  | .source file => file.imports

/-- **Every import of a file of the slice is served by a file of the slice.** -/
theorem exists_reference {f : SliceFile} (hf : f ∈ files e) {i : Import} (hi : i ∈ f.imports)
    (hr : i.isRelative = true) :
    ∃ names g, names ≠ [] ∧ f.path.components = componentsAt e names ∧
      Reference e names.dropLast i g := by
  rcases List.mem_append.mp hf with hf | hf
  · obtain ⟨p, -, hp⟩ := List.mem_filterMap.mp hf
    obtain ⟨⟨path, content⟩, hs, rfl⟩ := Option.map_eq_some_iff.mp hp
    cases content with
    | document v => simp [SliceFile.imports] at hi
    | source file =>
      obtain ⟨g, hg⟩ := isResolved_of_single? hs _ (File.mem_imports_iff.mp hi) hr
      exact ⟨p.names, g, by cases p <;> decide, Part.components_of_single? e hs, hg⟩
  · obtain ⟨p, -, rfl⟩ := List.mem_map.mp hf
    obtain ⟨g, hg⟩ := isResolved_pickerFile p _ _ (File.mem_imports_iff.mp hi) hr
    exact ⟨pickerNames p, g, by simp [pickerNames], Part.components_pickerPath e p, hg⟩

end EntitySlice.Slice
