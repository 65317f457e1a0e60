import EntitySlice.Batch
import EntitySlice.Proofs.Slice.Places

/-!
# The files of a slice

Every part of a slice can be rendered, since every component that a field is edited with has
statements (`Part.files?_eq`). Each file begins with a word to the tools, with a comment or with a
brace, so none of them is blank (`isBlankText_of_mem_files`).

* `files` — all files of a slice, in the order in which they are written
* `components_of_mem_files` — they lie at places of the slice
* `files_apart` — no one of them lies at or below another
-/

namespace EntitySlice.Source

open EntitySlice.Text

/-! ## Texts that show something -/

theorem isBlankText_of_mem {s : String} {c : Char} (hc : c ∈ s.toList) (h : isBlank c = false) :
    isBlankText s = false := by
  unfold isBlankText
  rw [List.all_eq_false]
  exact ⟨c, hc, by simp [h]⟩

theorem mem_linesText {lines : List Line} {s : String} {c : Char} (hl : Line.code s ∈ lines)
    (hc : c ∈ s.toList) : c ∈ (linesText lines).toList := by
  rw [linesText, String.toList_join, List.mem_flatMap]
  refine ⟨(Line.code s).text ++ "\n", List.mem_map_of_mem hl, ?_⟩
  rw [String.toList_append, List.mem_append]
  left
  rw [Line.text, String.toList_append, List.mem_append]
  exact Or.inr hc

theorem mem_paragraphs {groups : List (List Line)} {g : List Line} {l : Line} (hg : g ∈ groups)
    (hl : l ∈ g) : l ∈ paragraphs groups := by
  unfold paragraphs
  induction groups with
  | nil => simp at hg
  | cons h rest ih =>
    cases rest with
    | nil =>
      rw [List.intercalate_singleton]
      rwa [List.mem_singleton.mp hg] at hl
    | cons k rest =>
      rw [List.intercalate_cons_cons, List.mem_append]
      rcases List.mem_cons.mp hg with rfl | hg
      · exact Or.inl (List.mem_append_left _ hl)
      · exact Or.inr (ih hg)

/-- Whether the item speaks to a reader: a word to the tools, or a comment. -/
def Item.isRemark : Item → Bool
  | .directive _ | .comment _ => true
  | _ => false

/-- A remark is one line, and the first character of the line is not blank. -/
theorem Item.exists_line {i : Item} (h : i.isRemark = true) :
    ∃ s c, Line.code s ∈ i.lines ∧ c ∈ s.toList ∧ isBlank c = false := by
  cases i with
  | directive text =>
    refine ⟨"'" ++ text ++ "';", '\'', by simp [lines], ?_, by decide⟩
    rw [String.toList_append, String.toList_append]
    simp
  | comment text =>
    refine ⟨"// " ++ text, '/', by simp [lines], ?_, by decide⟩
    rw [String.toList_append]
    simp
  | imported i => simp [isRemark] at h
  | declared d => simp [isRemark] at h

/-- A file with a remark is not blank. -/
theorem File.isBlankText_text {f : File} (h : f.items.any Item.isRemark = true) :
    isBlankText f.text = false := by
  obtain ⟨i, hi, hr⟩ := List.any_eq_true.mp h
  obtain ⟨section?, hs, hi⟩ := List.mem_flatten.mp hi
  obtain ⟨s, c, hl, hc, hb⟩ := Item.exists_line hr
  refine isBlankText_of_mem (mem_linesText ?_ hc) hb
  exact mem_paragraphs (List.mem_map_of_mem hs) (List.mem_flatMap.mpr ⟨i, hi, hl⟩)

end EntitySlice.Source

namespace EntitySlice.Slice

open EntitySlice.Source EntitySlice.Text

/-- An object shows its first brace. -/
theorem isBlankText_indented (members : Json.Members) (s : String) :
    isBlankText ((Json.Value.object members).indented ++ s) = false := by
  have hmem : '\x7b' ∈ ((Json.Value.object members).indented ++ s).toList := by
    rw [String.toList_append, List.mem_append]
    left
    cases members <;> simp [Json.Value.indented, Json.Value.indentedBefore]
  exact isBlankText_of_mem hmem (by decide)

/-! ## Components -/

/-- The statements of a component that fields are edited with. -/
def pickerBody (p : Picker) : List Line := (widgetBody? p.widget).getD []

/-- **The widget of every component has statements.** -/
theorem widgetBody?_widget (p : Picker) : widgetBody? p.widget = some (pickerBody p) := by
  cases p <;> rfl

/-- The file of a component. -/
def pickerSliceFile (e : Entity) (p : Picker) : SliceFile :=
  ⟨.pickers, Part.pickerPath e p, .source (pickerFile p (pickerBody p))⟩

theorem pickerSliceFile?_eq (e : Entity) (p : Picker) :
    Part.pickerSliceFile? e p = some (pickerSliceFile e p) := by
  rw [Part.pickerSliceFile?, pickerFile?, widgetBody?_widget]
  rfl

/-- The components are listed in the order of their widgets, each once. -/
theorem sublist_pickers (e : Entity) : e.pickers.Sublist allPickers :=
  List.filter_sublist.filterMap _

theorem nodup_pickers (e : Entity) : e.pickers.Nodup := by
  have hall : allPickers.Nodup := by decide
  exact hall.sublist (sublist_pickers e)

/-- A slice has the component of a widget when a field is edited with it. -/
theorem mem_pickers_iff {e : Entity} {p : Picker} :
    p ∈ e.pickers ↔ ∃ f ∈ e.fields, f.widget.picker? = some p := by
  unfold Entity.pickers Entity.uses
  rw [List.mem_filterMap]
  constructor
  · rintro ⟨w, hw, hp⟩
    obtain ⟨f, hf, he⟩ := List.any_eq_true.mp (List.mem_filter.mp hw).2
    exact ⟨f, hf, by rwa [of_decide_eq_true he]⟩
  · rintro ⟨f, hf, hp⟩
    refine ⟨f.widget, List.mem_filter.mpr ⟨Widget.mem_all _, ?_⟩, hp⟩
    exact List.any_eq_true.mpr ⟨f, hf, by simp⟩

/-! ## Parts -/

/-- The file of a part that is one file. -/
def Part.singleFile? (e : Entity) (p : Part) : Option SliceFile :=
  (p.single? e).map fun f => ⟨p, f.1, f.2⟩

/-- The files of a part. -/
def Part.files (e : Entity) (p : Part) : List SliceFile :=
  match p.singleFile? e with
  | some f => [f]
  | none => e.pickers.map (pickerSliceFile e)

/-- **Every part can be rendered.** -/
theorem Part.files?_eq (e : Entity) (p : Part) : p.files? e = some (p.files e) := by
  unfold files? files singleFile?
  cases p.single? e with
  | some f => rfl
  | none =>
    rw [show pickerSliceFile? e = fun q => some (pickerSliceFile e q) from
      funext (pickerSliceFile?_eq e)]
    exact List.mapM_pure

theorem Part.exists_singleFile? {p : Part} (h : p ≠ .pickers) (e : Entity) :
    ∃ f, p.singleFile? e = some f := by
  cases p with
  | pickers => exact absurd rfl h
  | _ => exact ⟨_, rfl⟩

/-! ## All files -/

/-- The files of the parts that are one file each. -/
def singleFiles (e : Entity) : List SliceFile := singleParts.filterMap (Part.singleFile? e)

/-- All files of a slice, in the order in which they are written. -/
def files (e : Entity) : List SliceFile := singleFiles e ++ e.pickers.map (pickerSliceFile e)

theorem mem_files_of_singleFile? {e : Entity} {p : Part} {f : SliceFile}
    (h : p.singleFile? e = some f) : f ∈ files e := by
  refine List.mem_append_left _ (List.mem_filterMap.mpr ⟨p, ?_, h⟩)
  cases p with
  | pickers => simp [Part.singleFile?, Part.single?] at h
  | _ => decide

theorem single?_of_mem_files {e : Entity} {f : SliceFile} (hf : f ∈ files e)
    (hp : f.part ≠ .pickers) : f.part.single? e = some (f.path, f.content) := by
  rcases List.mem_append.mp hf with hf | hf
  · obtain ⟨p, -, hfile⟩ := List.mem_filterMap.mp hf
    obtain ⟨⟨path, content⟩, hs, rfl⟩ := Option.map_eq_some_iff.mp hfile
    exact hs
  · obtain ⟨p, -, rfl⟩ := List.mem_map.mp hf
    exact absurd rfl hp

/-- The content of a part is one module. -/
theorem source_eq {e : Entity} {p : Part} {path path' : Path} {f f' : File}
    (h : p.single? e = some (path, .source f)) (h' : p.single? e = some (path', .source f')) :
    f = f' := by
  rw [h] at h'
  exact Content.source.inj (Prod.mk.inj (Option.some.inj h')).2

/-- Every part but the schema is a module. -/
theorem exists_source_of_single? {e : Entity} {p : Part} (hp : p ≠ .sliceSchema) {path : Path}
    {content : Content} (h : p.single? e = some (path, content)) : ∃ f, content = .source f := by
  cases content with
  | source f => exact ⟨f, rfl⟩
  | document v =>
    cases p with
    | sliceSchema => exact absurd rfl hp
    | _ => simp [Part.single?] at h

/-- A part that is one module is among the files as this module. -/
theorem exists_module_of_part (e : Entity) {p : Part} (hschema : p ≠ .sliceSchema)
    (hpickers : p ≠ .pickers) : ∃ f ∈ files e, f.part = p ∧
      ∃ m, f.content = .source m ∧ p.single? e = some (f.path, .source m) := by
  obtain ⟨f, hf⟩ := Part.exists_singleFile? hpickers e
  obtain ⟨⟨path, content⟩, hsingle, rfl⟩ := Option.map_eq_some_iff.mp hf
  obtain ⟨m, rfl⟩ := exists_source_of_single? hschema hsingle
  exact ⟨_, mem_files_of_singleFile? hf, rfl, m, rfl, hsingle⟩

/-- The names that lead from the directory of a slice to its files, in the same order. -/
def fileNames (e : Entity) : List (List String) :=
  singleParts.map Part.names ++ e.pickers.map pickerNames

/-- All files are those of one part after the other. -/
theorem flatMap_files (e : Entity) : Part.all.flatMap (Part.files e) = files e := by
  have hsingle : ∀ ps : List Part, (∀ p ∈ ps, p ≠ .pickers) →
      ps.flatMap (Part.files e) = ps.filterMap (Part.singleFile? e) := by
    intro ps hps
    induction ps with
    | nil => rfl
    | cons p ps ih =>
      rw [List.forall_mem_cons] at hps
      obtain ⟨f, hf⟩ := Part.exists_singleFile? hps.1 e
      rw [List.flatMap_cons, List.filterMap_cons_some hf, ih hps.2]
      simp [Part.files, hf]
  have hall : Part.all = singleParts ++ [.pickers] := rfl
  rw [hall, List.flatMap_append, hsingle singleParts (by decide), List.flatMap_singleton]
  rfl

/-- What can be told of a file from its part can be told of all in order. -/
theorem map_singleFiles {β : Type} {e : Entity} {g : SliceFile → β} {g' : Part → β}
    (h : ∀ p f, p.singleFile? e = some f → g f = g' p) :
    (singleFiles e).map g = singleParts.map g' := by
  have hall : ∀ ps : List Part, (∀ p ∈ ps, p ≠ .pickers) →
      (ps.filterMap (Part.singleFile? e)).map g = ps.map g' := by
    intro ps hps
    induction ps with
    | nil => rfl
    | cons p ps ih =>
      rw [List.forall_mem_cons] at hps
      obtain ⟨f, hf⟩ := Part.exists_singleFile? hps.1 e
      rw [List.filterMap_cons_some hf, List.map_cons, List.map_cons, ih hps.2, h p f hf]
  exact hall singleParts (by decide)

/-- The parts that are one file each have their files in order, and then come the components. -/
theorem map_part_files (e : Entity) :
    (files e).map (·.part) = singleParts ++ e.pickers.map fun _ => .pickers := by
  have hsingle : (singleFiles e).map (·.part) = singleParts.map id := by
    refine map_singleFiles fun p f hf => ?_
    obtain ⟨g, -, rfl⟩ := Option.map_eq_some_iff.mp hf
    rfl
  rw [files, List.map_append, List.map_map, hsingle, List.map_id]
  rfl

/-- The place of a file that lies at `names` in the directory of a slice. -/
def componentsAt (e : Entity) (names : List String) : List PathComponent :=
  e.sliceDir.components ++ names.map .name

theorem components_singleFile? {e : Entity} {p : Part} {f : SliceFile}
    (h : p.singleFile? e = some f) : f.path.components = componentsAt e p.names := by
  obtain ⟨⟨path, content⟩, hs, rfl⟩ := Option.map_eq_some_iff.mp h
  exact Part.components_of_single? e hs

/-- **The files lie at their names in the directory of the slice.** -/
theorem map_components_files (e : Entity) :
    (files e).map (·.path.components) = (fileNames e).map (componentsAt e) := by
  have hsingle : (singleFiles e).map (·.path.components) =
      (singleParts.map Part.names).map (componentsAt e) := by
    rw [List.map_map]
    exact map_singleFiles fun p f hf => components_singleFile? hf
  have hpickers : (e.pickers.map (pickerSliceFile e)).map (·.path.components) =
      (e.pickers.map pickerNames).map (componentsAt e) := by
    rw [List.map_map, List.map_map]
    exact List.map_congr_left fun p _ => Part.components_pickerPath e p
  rw [files, fileNames, List.map_append, List.map_append, hsingle, hpickers]

theorem sublist_fileNames (e : Entity) : (fileNames e).Sublist places :=
  (List.Sublist.refl _).append ((sublist_pickers e).map _)

/-- A file of a slice lies at one of its places. -/
theorem components_of_mem_files {e : Entity} {f : SliceFile} (hf : f ∈ files e) :
    ∃ names ∈ places, f.path.components = componentsAt e names := by
  have hmem : f.path.components ∈ (files e).map (·.path.components) := List.mem_map_of_mem hf
  rw [map_components_files, List.mem_map] at hmem
  obtain ⟨names, hn, h⟩ := hmem
  exact ⟨names, (sublist_fileNames e).mem hn, h.symm⟩

/-- **No file lies at or below another.** -/
theorem files_apart (e : Entity) : (files e).Pairwise fun f g => f.path.Apart g.path := by
  have hcomp : ((files e).map (·.path.components)).Pairwise fun cs ds =>
      ¬ds <+: cs ∧ ¬cs <+: ds := by
    rw [map_components_files, List.pairwise_map]
    refine (places_apart.sublist (sublist_fileNames e)).imp ?_
    rintro a b ⟨hab, hba⟩
    have hinj : Function.Injective PathComponent.name := fun m n h => by simpa using h
    unfold componentsAt
    rw [List.prefix_append_right_inj, List.prefix_append_right_inj,
      List.prefix_map_iff_of_injective hinj, List.prefix_map_iff_of_injective hinj]
    exact ⟨hba, hab⟩
  exact (List.pairwise_map.mp hcomp).imp fun h => (Path.apart_iff _ _).mpr h

/-! ## Contents -/

/-- Whether the content is an object, or a module with a remark. -/
def Content.IsOpened : Content → Prop
  | .document v => ∃ members, v = .object members
  | .source f => f.items.any Item.isRemark = true

theorem Content.isBlankText_text {c : Content} (h : c.IsOpened) : isBlankText c.text = false := by
  cases c with
  | document v =>
    obtain ⟨members, rfl⟩ := h
    exact isBlankText_indented members _
  | source f => exact File.isBlankText_text h

theorem isOpened_of_single? {e : Entity} (he : e.Accepted) {p : Part} {path : Path}
    {content : Content} (h : p.single? e = some (path, content)) : content.IsOpened := by
  cases p with
  | sliceSchema =>
    obtain ⟨-, rfl⟩ := Prod.mk.inj (Option.some.inj h)
    exact he.document
  | pickers => simp [Part.single?] at h
  | _ =>
    obtain ⟨-, rfl⟩ := Prod.mk.inj (Option.some.inj h)
    rfl

/-- **No file of a slice is blank.** -/
theorem isBlankText_of_mem_files {e : Entity} (he : e.Accepted) {f : SliceFile}
    (hf : f ∈ files e) : isBlankText f.content.text = false := by
  rcases List.mem_append.mp hf with hf | hf
  · obtain ⟨p, -, hp⟩ := List.mem_filterMap.mp hf
    obtain ⟨⟨path, content⟩, hs, rfl⟩ := Option.map_eq_some_iff.mp hp
    exact Content.isBlankText_text (isOpened_of_single? he hs)
  · obtain ⟨p, -, rfl⟩ := List.mem_map.mp hf
    refine File.isBlankText_text (f := pickerFile p (pickerBody p)) ?_
    cases p <;> rfl

end EntitySlice.Slice
