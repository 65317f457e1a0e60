import EntitySlice.Proofs.Bindings
import EntitySlice.Proofs.Slice.DialogLines
import EntitySlice.Proofs.Source.ImportLines

/-!
# References between the files of a slice

The files of a slice name each other: by relative imports, by the components that fields are edited
with, and by the addresses of the page and of requests. All of these lead to files of the same plan
(`plan_isLinked`). Imports and exports are read from the lines of the modules, and components from
the tags in their texts.

* `importsIn_written` — the import statements on the lines of a module are all that it imports
* `filter_leadsTo` — a relative import leads to one file
* `imports_iff_uses`, `imports_iff_mem_files` — components are imported, used and there together
* `text_routePath`, `text_pagePath` — the addresses are those of the files
-/

namespace EntitySlice.Slice

open EntitySlice.Source

variable {e : Entity} {f g : SliceFile} {i : Import}

/-! ## Imports -/

/-- **The import statements on the lines of a file are those that it was made from.** -/
theorem importsIn_written (hn : e.naming.OfParts) (hp : IsCapitalized e.naming.plural)
    (hf : f ∈ files e) : importsIn f.written = f.imports := by
  rcases List.mem_append.mp hf with hf | hf
  · obtain ⟨p, -, hfile⟩ := List.mem_filterMap.mp hf
    obtain ⟨⟨path, content⟩, hs, rfl⟩ := Option.map_eq_some_iff.mp hfile
    cases content with
    | document v => rfl
    | source file => exact importsIn_lines (isWord_of_mem_binds hn hp hs) (regular_of_single? hn hs)
  · obtain ⟨q, -, rfl⟩ := List.mem_map.mp hf
    exact importsIn_lines (isWord_of_mem_pickerBinds q) (regular_pickerFile q)

/-- The place that a path leads to. -/
def placeOf (p : Path) : List String := placeFrom [] p.components

/--
Whether an import of a file can mean the file at a path: its source leads there from the directory
of the importing file, with one of the endings of modules behind it.
-/
def SliceFile.leadsTo (f : SliceFile) (i : Import) (p : Path) : Bool :=
  (candidates (placeOf f.path).dropLast i.source).contains (placeOf p)

theorem placeOf_eq (he : e.Accepted) {p : Path} {names : List String}
    (hp : p.components = componentsAt e names) : placeOf p = e.sliceNames ++ names := by
  rw [placeOf, hp, componentsAt, Entity.components_sliceDir he, ← List.map_append, placeFrom_names,
    List.nil_append]

/-- What an import can mean in a directory of the slice lies in the slice. -/
theorem candidates_append {dir : List String} {source : String}
    (h : ∀ ending ∈ moduleEndings, staysBelow dir (⟨source ++ ending⟩ : Path).components = true)
    (above : List String) :
    candidates (above ++ dir) source = (candidates dir source).map (above ++ ·) := by
  rw [candidates, candidates, List.map_map]
  refine List.map_congr_left fun ending hending => ?_
  exact placeFrom_append_of_staysBelow (h ending hending) above

theorem leadsTo_iff (he : e.Accepted) {names other : List String} (hne : names ≠ [])
    (hf : f.path.components = componentsAt e names)
    (h : ∀ ending ∈ moduleEndings,
      staysBelow names.dropLast (⟨i.source ++ ending⟩ : Path).components = true)
    {p : Path} (hp : p.components = componentsAt e other) :
    f.leadsTo i p = true ↔ other ∈ candidates names.dropLast i.source := by
  rw [SliceFile.leadsTo, placeOf_eq he hf, placeOf_eq he hp, List.dropLast_append_of_ne_nil hne,
    candidates_append h, List.contains_iff_mem, List.mem_map]
  constructor
  · rintro ⟨names', hmem, heq⟩
    rwa [← List.append_cancel_left heq]
  · exact fun hmem => ⟨other, hmem, rfl⟩

/-- No two places of a slice are the same. -/
theorem ne_of_apart {p q : Path} (h : p.Apart q) : p.components ≠ q.components := by
  intro heq
  rw [Path.apart_iff, heq] at h
  exact h.1 List.prefix_rfl

/-- **An import that is served leads to one file of the slice.** -/
theorem filter_leadsTo (he : e.Accepted) {names : List String} (hne : names ≠ [])
    (hf : f.path.components = componentsAt e names) (hg : Reference e names.dropLast i g) :
    (files e).filter (fun k => f.leadsTo i k.path) = [g] := by
  obtain ⟨target, htarget, hstays, hplaces⟩ := hg.leads
  -- Of the places of a slice the import can mean one alone.
  have hiff : ∀ k ∈ files e, f.leadsTo i k.path = true ↔ k.path.components = g.path.components := by
    intro k hk
    obtain ⟨other, hother, hc⟩ := components_of_mem_files hk
    rw [leadsTo_iff he hne hf hstays hc, hplaces other hother, hc, htarget]
    constructor
    · exact fun h => by rw [h]
    · intro h
      have hinj : Function.Injective PathComponent.name := fun m n h => by simpa using h
      exact (List.map_inj_right fun m n h => hinj h).mp (List.append_cancel_left h)
  obtain ⟨pre, post, hsplit⟩ := List.append_of_mem hg.mem
  have hapart := files_apart e
  rw [hsplit, List.pairwise_append, List.pairwise_cons] at hapart
  obtain ⟨-, ⟨hpost, -⟩, hpre⟩ := hapart
  have hself : f.leadsTo i g.path = true := (hiff g hg.mem).mpr rfl
  have hbefore : pre.filter (fun k => f.leadsTo i k.path) = [] := by
    rw [List.filter_eq_nil_iff]
    intro k hk hleads
    have hmem : k ∈ files e := hsplit ▸ List.mem_append_left _ hk
    exact ne_of_apart (hpre k hk g List.mem_cons_self) ((hiff k hmem).mp hleads)
  have hafter : post.filter (fun k => f.leadsTo i k.path) = [] := by
    rw [List.filter_eq_nil_iff]
    intro k hk hleads
    have hmem : k ∈ files e := hsplit ▸ List.mem_append_right _ (List.mem_cons_of_mem _ hk)
    exact ne_of_apart (hpost k hk) ((hiff k hmem).mp hleads).symm
  rw [hsplit, List.filter_append, hbefore, List.nil_append,
    List.filter_cons_of_pos (p := fun k : SliceFile => f.leadsTo i k.path) hself, hafter]

/-! ## Components for fields -/

/-- Whether a module is one of those that fields are edited with. -/
def isPickerSource (source : String) : Bool :=
  "./others-field-type/".toList.isPrefixOf source.toList

/-- The components that the lines of a file import from where the components for fields are. -/
def SliceFile.importedPickers (f : SliceFile) : List String :=
  ((importsIn f.written).filter fun i => isPickerSource i.source).filterMap Import.default?

/-- The components that the tags in the text of a file are for. -/
def SliceFile.components (f : SliceFile) : List String := f.tags.filterMap Element.component?

theorem isPickerSource_component (p : Picker) :
    isPickerSource ("./others-field-type/" ++ p.component) = true := by
  cases p <;> decide

theorem filterMap_pickerImports (ps : List Picker) :
    ((ps.map pickerImport).filter fun i => isPickerSource i.source).filterMap Import.default? =
      ps.map Picker.component := by
  have hall : (ps.map pickerImport).filter (fun i => isPickerSource i.source) =
      ps.map pickerImport := by
    rw [List.filter_eq_self]
    intro i hi
    obtain ⟨p, -, rfl⟩ := List.mem_map.mp hi
    exact isPickerSource_component p
  have hname : Import.default? ∘ pickerImport = some ∘ Picker.component := rfl
  rw [hall, List.filterMap_map, hname, List.filterMap_eq_map]

theorem filterMap_import?_pickerImports (e : Entity) :
    (pickerImports e).filterMap Item.import? = e.pickers.map pickerImport := by
  have himport : (Item.import? ∘ fun p => Item.imported (pickerImport p)) = some ∘ pickerImport :=
    rfl
  rw [pickerImports, List.filterMap_map, himport, List.filterMap_eq_map]

/-- A dialog in which fields are edited imports their components behind all else. -/
theorem imports_of_mem_editorParts {p : Part} (hp : p ∈ editorParts) {path : Path} {file : File}
    (h : p.single? e = some (path, .source file)) :
    ∃ names o more, file.imports =
      [.named names "react", .named [e.naming.storeHook] "../store/store",
        .named [e.naming.hook o] "../redux/rtk-api", .named more "../store/data/data"] ++
        e.pickers.map pickerImport := by
  rw [← filterMap_import?_pickerImports, File.imports, File.items]
  cases p with
  | add =>
    obtain rfl := source_eq rfl h
    refine ⟨["useState"], .add, [e.naming.validateFn], ?_⟩
    simp [addDialog, clientDirective, reactImport, storeImport, operationImport, dataImport,
      Item.import?, List.filterMap_cons]
  | edit =>
    obtain rfl := source_eq rfl h
    refine ⟨["useEffect", "useState"], .update, [e.naming.interfaceName, e.naming.validateFn], ?_⟩
    simp [editDialog, clientDirective, reactImport, storeImport, operationImport, dataImport,
      Item.import?, List.filterMap_cons]
  | bulkEdit =>
    obtain rfl := source_eq rfl h
    refine ⟨["useEffect", "useState"], .bulkUpdate, [e.naming.interfaceName], ?_⟩
    simp [bulkEditDialog, clientDirective, reactImport, storeImport, operationImport, dataImport,
      Item.import?, List.filterMap_cons]
  | bulkUpdate =>
    obtain rfl := source_eq rfl h
    refine ⟨["useState"], .bulkUpdate, [e.naming.interfaceName, e.naming.defaultConst], ?_⟩
    simp [bulkUpdateDialog, draftImports, clientDirective, reactImport, storeImport,
      operationImport, dataImport, Item.import?, List.filterMap_cons]
  | bulkDynamicUpdate =>
    obtain rfl := source_eq rfl h
    refine ⟨["useState"], .bulkUpdate, [e.naming.interfaceName, e.naming.defaultConst], ?_⟩
    simp [bulkDynamicUpdateDialog, draftImports, clientDirective, reactImport, storeImport,
      operationImport, dataImport, Item.import?, List.filterMap_cons]
  | _ => simp [editorParts] at hp

/-- The components among the imports of such a dialog. -/
theorem filterMap_default?_imports {p : Part} (hp : p ∈ editorParts) {path : Path} {file : File}
    (h : p.single? e = some (path, .source file)) :
    (file.imports.filter fun i => isPickerSource i.source).filterMap Import.default? =
      e.pickers.map Picker.component := by
  obtain ⟨names, o, more, himports⟩ := imports_of_mem_editorParts hp h
  have hothers : ∀ s ∈ ["react", "../store/store", "../redux/rtk-api", "../store/data/data"],
      isPickerSource s = false := by
    decide
  simp only [List.forall_mem_cons] at hothers
  obtain ⟨hreact, hstore, hclient, hdata, -⟩ := hothers
  have hfixed : List.filter (fun i : Import => isPickerSource i.source)
      [.named names "react", .named [e.naming.storeHook] "../store/store",
        .named [e.naming.hook o] "../redux/rtk-api", .named more "../store/data/data"] = [] := by
    simp [Import.named, hreact, hstore, hclient, hdata]
  rw [himports, List.filter_append, hfixed, List.nil_append, filterMap_pickerImports]

/-- **A dialog in which fields are edited imports each component of the slice once.** -/
theorem importedPickers_eq (hn : e.naming.OfParts) (hp : IsCapitalized e.naming.plural)
    (hf : f ∈ files e) (hpart : f.part ∈ editorParts) :
    f.importedPickers = e.pickers.map Picker.component := by
  obtain ⟨p, path, content⟩ := f
  have hs := single?_of_mem_files hf (ne_of_mem_of_not_mem hpart (by decide))
  obtain ⟨file, rfl⟩ := exists_source_of_single? (ne_of_mem_of_not_mem hpart (by decide)) hs
  rw [SliceFile.importedPickers, importsIn_written hn hp hf]
  exact filterMap_default?_imports hpart hs

/-- **Its tags are for the components of the fields**, one for each field that has one. -/
theorem components_eq (h : HasPlainNames e) (hf : f ∈ files e) (hpart : f.part ∈ editorParts) :
    f.components = e.fields.filterMap fieldComponent? := by
  obtain ⟨m, -, hs, htags⟩ := exists_module_of_mem_formParts h hf (List.mem_append_left _ hpart)
  rw [SliceFile.components, htags]
  exact components_of_mem_editorParts hpart hs

/-- A slice has the components of its fields. -/
theorem mem_fieldComponents_iff {c : String} :
    c ∈ e.pickers.map Picker.component ↔ c ∈ fieldComponents e := by
  rw [List.mem_map, fieldComponents, List.mem_filterMap]
  constructor
  · rintro ⟨p, hp, rfl⟩
    obtain ⟨f, hf, hpicker⟩ := mem_pickers_iff.mp hp
    exact ⟨f, hf, by rw [fieldComponent?, hpicker, Option.map_some]⟩
  · rintro ⟨f, hf, hc⟩
    obtain ⟨p, hp, rfl⟩ := Option.map_eq_some_iff.mp hc
    exact ⟨p, mem_pickers_iff.mpr ⟨f, hf, hp⟩, rfl⟩

/-- A slice has a file for each of its components, and no other file where they are. -/
theorem mem_component_iff {c : String} :
    c ∈ e.pickers.map Picker.component ↔ ∃ a ∈ artifacts e, a.key = Part.pickers.name ∧
      a.path.components = (Part.pickersDir e).components ++ [.name (c ++ ".tsx")] := by
  have hdir (p : Picker) : (Part.pickerPath e p).components =
      (Part.pickersDir e).components ++ [.name (p.component ++ ".tsx")] := by
    have hname : (⟨p.component ++ ".tsx"⟩ : Path).components =
        [p.component ++ ".tsx"].map .name := by
      cases p <;> decide
    rw [Part.pickerPath, Path.components_div _ hname, List.map_singleton]
  constructor
  · intro h
    obtain ⟨p, hp, rfl⟩ := List.mem_map.mp h
    have hmem : pickerSliceFile e p ∈ files e := List.mem_append_right _ (List.mem_map_of_mem hp)
    refine ⟨(pickerSliceFile e p).artifact, List.mem_map_of_mem hmem, ?_, ?_⟩
    · rfl
    · exact hdir p
  · rintro ⟨a, ha, hkey, hpath⟩
    obtain ⟨g, hg, rfl⟩ := List.mem_map.mp ha
    rcases List.mem_append.mp hg with hg | hg
    · obtain ⟨p, -, hp⟩ := List.mem_filterMap.mp hg
      obtain ⟨⟨path, content⟩, hs, rfl⟩ := Option.map_eq_some_iff.mp hp
      obtain rfl := Part.eq_of_name_eq hkey
      simp [Part.single?] at hs
    · obtain ⟨p, hp, rfl⟩ := List.mem_map.mp hg
      have hlast := List.append_cancel_left ((hdir p).symm.trans hpath)
      have hname : p.component ++ ".tsx" = c ++ ".tsx" := by simpa using hlast
      have hc : p.component = c := by simpa using hname
      exact hc ▸ List.mem_map_of_mem hp

end EntitySlice.Slice

namespace EntitySlice

open EntitySlice.Source EntitySlice.Slice

/-! ## Addresses -/

/-- A path behind another one that does not end in a slash. -/
theorem Path.text_div {p : Path} {s : String} (hs : (⟨s⟩ : Path).isAbsolute = false) {c : Char}
    (hlast : p.text.toList.getLast? = some c) (hc : c ≠ '/') :
    (p / s).text = p.text ++ "/" ++ s := by
  have hdiv : p / s = p.join ⟨s⟩ := rfl
  rw [hdiv, join, if_neg (by simp [hs]), if_pos]
  rw [hlast]
  simpa using hc

/-- The last character of a text that has one at the end of it. -/
theorem getLast?_toList_append {s t : String} {c : Char} (h : t.toList.getLast? = some c) :
    (s ++ t).toList.getLast? = some c := by
  rw [String.toList_append, List.getLast?_append, h]
  rfl

variable {e : Entity}

/-- The text of the directory of a slice. -/
theorem Entity.text_sliceDir (h : e.Accepted) :
    e.sliceDir.text = "src/app/" ++ e.root.name ++ "/" ++ e.naming.folder := by
  have hname := isName_of_isFolderName h.folder
  have hplain : (⟨e.naming.folder⟩ : Path).isPlain = true :=
    (Path.isPlain_iff _).mpr ⟨[e.naming.folder], Path.components_of_isName hname⟩
  have hdir : e.root.dir.text = "src/app/" ++ e.root.name ∧
      ∃ c, e.root.dir.text.toList.getLast? = some c ∧ c ≠ '/' := by
    cases e.root <;> exact ⟨by decide, _, rfl, by decide⟩
  obtain ⟨htext, c, hlast, hc⟩ := hdir
  rw [sliceDir, SliceRoot.sliceDir, Path.text_div (Path.not_isAbsolute_of_isPlain hplain) hlast hc,
    htext]

/-- The text of a file in the directory of a slice. -/
theorem Entity.text_sliceDir_div (h : e.Accepted) {s : String}
    (hs : (⟨s⟩ : Path).isAbsolute = false) :
    (e.sliceDir / s).text = "src/app/" ++ e.root.name ++ "/" ++ e.naming.folder ++ "/" ++ s := by
  obtain ⟨hne, -, -, hslash⟩ := isName_of_isFolderName h.folder
  obtain ⟨c, hc⟩ : ∃ c, e.naming.folder.toList.getLast? = some c :=
    ⟨_, List.getLast?_eq_some_getLast (mt String.toList_eq_nil_iff.mp hne)⟩
  have hlast : e.sliceDir.text.toList.getLast? = some c := by
    rw [Entity.text_sliceDir h]
    exact getLast?_toList_append hc
  have hslash' : c ≠ '/' := by
    rintro rfl
    exact hslash (List.mem_of_getLast? hc)
  rw [Path.text_div hs hlast hslash', Entity.text_sliceDir h]

/-- **The address of requests names the file of the route.** -/
theorem text_route (h : e.Accepted) :
    (e.sliceDir / "api/v1/route.ts").text = "src/app" ++ e.requestAddress ++ "/route.ts" := by
  have hstart : "src/app/" = "src/app" ++ "/" := rfl
  have hend : "api/v1/route.ts" = "api/v1" ++ "/route.ts" := rfl
  rw [Entity.text_sliceDir_div h (by decide), Entity.requestAddress, Entity.address, hstart, hend]
  simp only [String.append_assoc]

/-- **The address of the page names the file of the page.** -/
theorem text_page (h : e.Accepted) :
    (e.pageDir / "page.tsx").text = "src/app" ++ e.pageAddress ++ "/page.tsx" := by
  have hdir := Entity.text_sliceDir_div h (s := "all") (by decide)
  have hlast : e.pageDir.text.toList.getLast? = some 'l' := by
    rw [Entity.pageDir, hdir]
    exact getLast?_toList_append rfl
  have hstart : "src/app/" = "src/app" ++ "/" := rfl
  have hend : "/page.tsx" = "/" ++ "page.tsx" := rfl
  rw [Path.text_div (by decide) hlast (by decide), Entity.pageDir, hdir, Entity.pageAddress,
    Entity.address, hstart, hend]
  simp only [String.append_assoc]

/-- The query client sends its requests to the address of the slice. -/
theorem baseUrl_mem_queryClient (e : Entity) :
    r"  baseQuery: fetchBaseQuery({ baseUrl: '" ++ e.requestAddress ++ r"' })," ∈
      (queryClient e).lines.map Line.text := by
  have hitem : .declared (apiSliceConst e) ∈ (queryClient e).items :=
    List.mem_of_getElem? (i := 5) rfl
  have hline : (⟨2, (baseUrlLine e).content⟩ : Line) ∈ (apiSliceConst e).lines := by
    refine List.mem_append_left _ (List.mem_cons_of_mem _
      (List.mem_map.mpr ⟨baseUrlLine e, ?_, rfl⟩))
    exact List.mem_append_left _ (List.mem_cons_of_mem _ List.mem_cons_self)
  refine List.mem_map.mpr ⟨_, File.mem_lines hitem hline, ?_⟩
  have hstart : r"  baseQuery: fetchBaseQuery({ baseUrl: '" =
      "  " ++ r"baseQuery: fetchBaseQuery({ baseUrl: '" := rfl
  rw [hstart, String.append_assoc, String.append_assoc]
  exact congrArg ("  " ++ ·) (String.append_assoc ..)

/-! ## Plans -/

/-- Whether all that the files of a plan say of each other is so. -/
structure Plan.IsLinked (p : Plan) : Prop where
  /-- The text of a module is its lines, and these have all the import statements of the module. -/
  written : ∀ f ∈ files p.entity, ∀ m, f.content = .source m →
    f.content.text = String.join (f.written.map (· ++ "\n")) ∧ importsIn f.written = m.imports
  /-- Each relative import on the lines of a file leads to one file, which has lines that export what
  is imported. -/
  imports : ∀ f ∈ files p.entity, ∀ i ∈ importsIn f.written, i.isRelative = true →
    ∃ g ∈ files p.entity, p.artifacts.filter (fun a => f.leadsTo i a.path) = [g.artifact] ∧
      i.ServedBy g.written
  /-- The dialogs in which fields are edited import the components that they have tags for. -/
  uses : ∀ f ∈ files p.entity, f.part ∈ editorParts →
    ∀ c, c ∈ f.importedPickers ↔ c ∈ f.components
  /-- The tags are for the components of the fields. -/
  fields : ∀ f ∈ files p.entity, f.part ∈ editorParts →
    f.components = p.entity.fields.filterMap fieldComponent?
  /-- The plan has a file for each of them, and no other file where they are. -/
  components : ∀ f ∈ files p.entity, f.part ∈ editorParts →
    ∀ c, c ∈ f.importedPickers ↔ ∃ a ∈ p.artifacts, a.key = Part.pickers.name ∧
      a.path.components = (Part.pickersDir p.entity).components ++ [.name (c ++ ".tsx")]
  /-- Requests go to the address of the file that answers them. -/
  requests : ∃ a, p.artifacts.filter (·.key = Part.route.name) = [a] ∧
    a.path.text = "src/app" ++ p.entity.requestAddress ++ "/route.ts"
  baseUrl : ∃ f ∈ files p.entity, f.part = .querySlice ∧
    r"  baseQuery: fetchBaseQuery({ baseUrl: '" ++ p.entity.requestAddress ++ r"' })," ∈ f.written
  /-- The page has the address of its file. -/
  page : ∃ a, p.artifacts.filter (·.key = Part.page.name) = [a] ∧
    a.path.text = "src/app" ++ p.entity.pageAddress ++ "/page.tsx"

/--
**All that the files of a plan say of each other is so.** The files are those of the slice as they
are written.
-/
theorem plan_isLinked {keys : NamingKeys} {text : String} {p : Plan}
    (h : plan keys text = .ok p) :
    p.artifacts = (files p.entity).map SliceFile.artifact ∧ p.IsLinked := by
  have he := accepted_of_plan h
  obtain ⟨hparts, hcapitalized⟩ := naming_of_plan h
  have hplain := hasPlainNames_of_plan h
  have hfiles : p.artifacts = artifacts p.entity := (plan_eq_ok_iff.mp h).2
  have hread : ∀ f ∈ files p.entity, importsIn f.written = f.imports := fun f hf =>
    importsIn_written hparts hcapitalized hf
  refine ⟨hfiles, ?_⟩
  constructor
  case written =>
    intro f hf m hm
    rw [hread f hf]
    obtain ⟨part, path, content⟩ := f
    obtain rfl := hm
    exact ⟨by rw [SliceFile.written, List.map_map]; rfl, rfl⟩
  case imports =>
    intro f hf i hi hr
    rw [hread f hf] at hi
    obtain ⟨names, g, hne, hpath, hg⟩ := exists_reference hf hi hr
    refine ⟨g, hg.mem, ?_, hg.served⟩
    rw [hfiles, artifacts, List.filter_map]
    exact congrArg _ (filter_leadsTo he hne hpath hg)
  case uses =>
    intro f hf hp c
    rw [importedPickers_eq hparts hcapitalized hf hp, components_eq hplain hf hp]
    exact mem_fieldComponents_iff
  case fields =>
    intro f hf hp
    exact components_eq hplain hf hp
  case components =>
    intro f hf hp c
    rw [importedPickers_eq hparts hcapitalized hf hp, hfiles]
    exact mem_component_iff
  case requests =>
    exact ⟨_, filter_artifacts_of_plan (q := .route) h rfl, text_route he⟩
  case baseUrl =>
    refine ⟨⟨.querySlice, _, .source (queryClient p.entity)⟩,
      mem_files_of_singleFile? (p := .querySlice) rfl, rfl, ?_⟩
    exact baseUrl_mem_queryClient p.entity
  case page =>
    exact ⟨_, filter_artifacts_of_plan (q := .page) h rfl, text_page he⟩

/-- A schema with fields that are edited with components. -/
def articlesSchema : String :=
  "\x7b\"namingConvention\":\x7b\"Users_1_000___\":\"Articles\",\"users_2_000___\":\"articles\","
    ++ "\"User_3_000___\":\"Article\"\x7d,\"fields\":["
    ++ "\x7b\"name\":\"title\",\"type\":\"STRING\"\x7d,"
    ++ "\x7b\"name\":\"body\",\"type\":\"RICHTEXT\"\x7d,\x7b\"name\":\"state\",\"type\":\"SELECT\","
    ++ "\"options\":[\"draft\",\"public\"]\x7d,\x7b\"name\":\"kind\",\"type\":\"SELECT\"\x7d]\x7d"

theorem plan_isLinked_articles :
    ∃ p, plan {} articlesSchema = .ok p ∧ p.entity.pickers = [.richText, .select] ∧
      p.IsLinked := by
  have hpickers : ∃ p, plan {} articlesSchema = .ok p ∧
      p.entity.pickers = [.richText, .select] := by
    apply exists_plan_of_chars Entity.pickers
    · unfold articlesSchema
      iterate 4 apply toList_append_eq String.toList_ofList
      exact String.toList_ofList
    · decide +kernel
  obtain ⟨p, hplan, hpickers⟩ := hpickers
  exact ⟨p, hplan, hpickers, (plan_isLinked hplan).2⟩

end EntitySlice
