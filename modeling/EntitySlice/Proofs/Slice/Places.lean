import EntitySlice.Proofs.Path.Components
import EntitySlice.Slice.Part

/-!
# The places of the files of a slice

The directory of a slice is four names deep: two for the application, one for the root and one for
the folder. Every file lies at fixed names in it, one list of names for each part that is one file
and one for each component that fields are edited with.

* `Entity.components_sliceDir` — the names that lead to the directory
* `places_apart` — no file lies at or below the place of another
* `Part.components_of_single?`, `Part.components_pickerPath` — the names that lead to the files
-/

namespace EntitySlice

/-- A path behind another one has the components of both. -/
theorem Path.components_div (p : Path) {s : String} {names : List String}
    (h : (⟨s⟩ : Path).components = names.map .name) :
    (p / s).components = p.components ++ names.map .name := by
  rw [show p / s = p.join ⟨s⟩ from rfl, components_join p ((isPlain_iff _).mpr ⟨names, h⟩), h]

/-! ## The directory of a slice -/

/--
Whether an entity can come from a schema: its folder has a safe name, and its document is an object.
-/
structure Entity.Accepted (e : Entity) : Prop where
  folder : isFolderName e.naming.folder = true
  document : ∃ members, e.document = .object members

/-- The names that lead to the directory of a slice. -/
def Entity.sliceNames (e : Entity) : List String :=
  ["src", "app", e.root.name, e.naming.folder]

/-- A folder name is a name: it has no slash and is no dot. -/
theorem isName_of_isFolderName {s : String} (h : isFolderName s = true) : IsName s := by
  unfold isFolderName at h
  cases hs : s.toList with
  | nil => simp [hs] at h
  | cons c rest =>
    rw [hs, Bool.and_eq_true] at h
    obtain ⟨hc, hrest⟩ := h
    -- The first character is a small letter or a digit, so the text is no dot.
    have hdot : c ≠ '.' := by
      rintro rfl
      exact absurd hc (by decide)
    have hslash : '/' ∉ s.toList := by
      rw [hs, List.mem_cons, not_or]
      constructor
      · rintro rfl
        exact absurd hc (by decide)
      · intro hm
        exact absurd (List.all_eq_true.mp hrest _ hm) (by decide)
    refine ⟨?_, ?_, ?_, hslash⟩
    · rintro rfl
      simp at hs
    · rintro rfl
      exact hdot (List.cons.inj (hs.symm.trans (show ".".toList = ['.'] from rfl))).1
    · rintro rfl
      exact hdot (List.cons.inj (hs.symm.trans (show "..".toList = ['.', '.'] from rfl))).1

/-- Different roots have different names. -/
theorem SliceRoot.eq_of_name_eq {r r' : SliceRoot} (h : r.name = r'.name) : r = r' := by
  revert h
  cases r <;> cases r' <;> decide

theorem SliceRoot.components_dir (r : SliceRoot) :
    r.dir.components = ["src", "app", r.name].map .name := by
  unfold dir
  have happ : appDir.components = ["src", "app"].map .name := by decide
  have hname : (⟨r.name⟩ : Path).components = [r.name].map .name := by cases r <;> decide
  rw [Path.components_div _ hname, happ]
  rfl

/-- **The directory of a slice is four names deep.** -/
theorem Entity.components_sliceDir {e : Entity} (h : e.Accepted) :
    e.sliceDir.components = e.sliceNames.map .name := by
  have hfolder : (⟨e.naming.folder⟩ : Path).components = [e.naming.folder].map .name :=
    Path.components_of_isName (isName_of_isFolderName h.folder)
  unfold sliceDir SliceRoot.sliceDir
  rw [Path.components_div _ hfolder, SliceRoot.components_dir]
  rfl

end EntitySlice

namespace EntitySlice.Slice

/-! ## The files -/

/-- The names that lead from the directory of a slice to that of its page. -/
def pageNames : List String := ["all"]

/-- The names that lead from the directory of a slice to that of the components of the page. -/
def componentNames : List String := pageNames ++ ["components"]

/-- The names that lead from the directory of a slice to the file of a part. -/
def Part.names : Part → List String
  | sliceSchema => ["slice-schema", "slice-schema.json"]
  | model => ["api", "v1", "model.ts"]
  | controller => ["api", "v1", "controller.ts"]
  | route => ["api", "v1", "route.ts"]
  | querySlice => pageNames ++ ["redux", "rtk-api.ts"]
  | uiStore => pageNames ++ ["store", "store.ts"]
  | entityData => pageNames ++ ["store", "data", "data.ts"]
  | page => pageNames ++ ["page.tsx"]
  | add => componentNames ++ ["Add.tsx"]
  | edit => componentNames ++ ["Edit.tsx"]
  | view => componentNames ++ ["View.tsx"]
  | delete => componentNames ++ ["Delete.tsx"]
  | table => componentNames ++ ["TableView.tsx"]
  | bulkEdit => componentNames ++ ["BulkEdit.tsx"]
  | bulkUpdate => componentNames ++ ["BulkUpdate.tsx"]
  | bulkDynamicUpdate => componentNames ++ ["BulkDynamicUpdate.tsx"]
  | bulkDelete => componentNames ++ ["BulkDelete.tsx"]
  | filter => componentNames ++ ["FilterDialog.tsx"]
  | summary => componentNames ++ ["Summary.tsx"]
  | exportData => componentNames ++ ["Export.tsx"]
  | pickers => componentNames ++ ["others-field-type"]

/-- The names that lead from the directory of a slice to the file of a component. -/
def pickerNames (p : Picker) : List String := Part.pickers.names ++ [p.component ++ ".tsx"]

/-- Every component that fields can be edited with. -/
def allPickers : List Picker := Widget.all.filterMap Widget.picker?

/-- The parts that are one file each. -/
def singleParts : List Part := Part.all.filter (· ≠ .pickers)

/-- The names that lead to the files that a slice can have. -/
def places : List (List String) := singleParts.map Part.names ++ allPickers.map pickerNames

/-- **No file lies at or below the place of another.** -/
theorem places_apart : places.Pairwise fun a b => ¬a <+: b ∧ ¬b <+: a := by
  decide

theorem components_in {base d : Path} {names more : List String} {s : String}
    (hd : d.components = base.components ++ names.map .name)
    (hs : (⟨s⟩ : Path).components = more.map .name) :
    (d / s).components = base.components ++ (names ++ more).map .name := by
  rw [Path.components_div d hs, hd, List.map_append, List.append_assoc]

variable (e : Entity)

theorem components_pageDir :
    e.pageDir.components = e.sliceDir.components ++ pageNames.map .name :=
  Path.components_div _ (by decide)

theorem components_componentDir :
    e.componentDir.components = e.sliceDir.components ++ componentNames.map .name :=
  components_in (components_pageDir e) (by decide)

namespace Part

/-- The file of a part lies at its names in the directory of the slice. -/
theorem components_of_single? {p : Part} {path : Path} {content : Content}
    (h : p.single? e = some (path, content)) :
    path.components = e.sliceDir.components ++ p.names.map .name := by
  cases p with
  | sliceSchema | model | controller | route =>
    obtain ⟨rfl, -⟩ := Prod.mk.inj (Option.some.inj h)
    exact Path.components_div _ (by decide)
  | querySlice | uiStore | entityData | page =>
    obtain ⟨rfl, -⟩ := Prod.mk.inj (Option.some.inj h)
    exact components_in (components_pageDir e) (by decide)
  | pickers => simp [single?] at h
  | _ =>
    obtain ⟨rfl, -⟩ := Prod.mk.inj (Option.some.inj h)
    exact components_in (components_componentDir e) (by decide)

/-- The file of a component lies at its names in the directory of the slice. -/
theorem components_pickerPath (p : Picker) :
    (pickerPath e p).components = e.sliceDir.components ++ (pickerNames p).map .name := by
  have hdir : (pickersDir e).components = e.sliceDir.components ++ pickers.names.map .name :=
    components_in (components_componentDir e) (by decide)
  exact components_in hdir (by cases p <;> decide)

end Part

end EntitySlice.Slice
