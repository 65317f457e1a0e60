import EntitySlice.Proofs.Placement

/-!
# Runs in an empty project

In an empty directory nothing is in the way of the files of a slice, and they are not in the way of
each other: no file lies at or below another, so where one of them needs a directory there is none
of the others (`writeFilesIn_isOk`). Without limits for names and paths a run can then fail only
before it has an entity.

* `plan_isComplete` — a prepared entity has a plan, with all files of its slice
-/

namespace EntitySlice

open EntitySlice.Slice EntitySlice.Text

/-! ## The texts of the paths -/

/--
Whether the text of a path can name a file: it has no zero character and asks for no directory.
-/
structure Path.NamesFile (p : Path) : Prop where
  hasZero : FileTree.hasZero p.text = false
  asksForDirectory : p.asksForDirectory = false

namespace Path

theorem hasZero_div {p : Path} {s : String} (hp : FileTree.hasZero p.text = false)
    (hs : FileTree.hasZero s = false) : FileTree.hasZero (p / s).text = false :=
  FileTree.hasZero_join hp hs

theorem namesFile_div {p : Path} {s : String} (hp : FileTree.hasZero p.text = false)
    (hs : FileTree.hasZero s = false) (hplain : (⟨s⟩ : Path).isPlain = true)
    (hask : (⟨s⟩ : Path).asksForDirectory = false) : (p / s).NamesFile where
  hasZero := hasZero_div hp hs
  asksForDirectory := (asksForDirectory_join p hplain).trans hask

end Path

theorem hasZero_sliceDir {e : Entity} (he : e.Accepted) :
    FileTree.hasZero e.sliceDir.text = false := by
  have hfolder : FileTree.hasZero e.naming.folder = false := by
    unfold FileTree.hasZero
    rw [Bool.eq_false_iff, ne_eq, List.contains_iff_mem]
    intro hz
    have h := he.folder
    unfold isFolderName at h
    cases hs : e.naming.folder.toList with
    | nil => simp [hs] at hz
    | cons c rest =>
      rw [hs, Bool.and_eq_true] at h
      rw [hs, List.mem_cons] at hz
      rcases hz with rfl | hz
      · exact absurd h.1 (by decide)
      · exact absurd (List.all_eq_true.mp h.2 _ hz) (by decide)
  have hdir : FileTree.hasZero e.root.dir.text = false := by cases e.root <;> decide
  exact Path.hasZero_div hdir hfolder

/-- The path of a file of a slice can name a file. -/
theorem namesFile_of_mem_artifacts {e : Entity} (he : e.Accepted) {a : Artifact}
    (ha : a ∈ artifacts e) : a.path.NamesFile := by
  have hslice := hasZero_sliceDir he
  have hpage : FileTree.hasZero e.pageDir.text = false := Path.hasZero_div hslice (by decide)
  have hcomponent : FileTree.hasZero e.componentDir.text = false :=
    Path.hasZero_div hpage (by decide)
  obtain ⟨f, hf, rfl⟩ := List.mem_map.mp ha
  rcases List.mem_append.mp hf with hf | hf
  · obtain ⟨p, -, hp⟩ := List.mem_filterMap.mp hf
    obtain ⟨⟨path, content⟩, hs, rfl⟩ := Option.map_eq_some_iff.mp hp
    cases p with
    | sliceSchema | model | controller | route =>
      obtain ⟨rfl, -⟩ := Prod.mk.inj (Option.some.inj hs)
      exact Path.namesFile_div hslice (by decide) (by decide) (by decide)
    | querySlice | uiStore | entityData | page =>
      obtain ⟨rfl, -⟩ := Prod.mk.inj (Option.some.inj hs)
      exact Path.namesFile_div hpage (by decide) (by decide) (by decide)
    | pickers => simp [Part.single?] at hs
    | _ =>
      obtain ⟨rfl, -⟩ := Prod.mk.inj (Option.some.inj hs)
      exact Path.namesFile_div hcomponent (by decide) (by decide) (by decide)
  · obtain ⟨p, -, rfl⟩ := List.mem_map.mp hf
    have hpickers : FileTree.hasZero (Part.pickersDir e).text = false :=
      Path.hasZero_div hcomponent (by decide)
    refine Path.namesFile_div hpickers ?_ ?_ ?_
    · cases p <;> decide
    · cases p <;> decide
    · cases p <;> decide

/-! ## Empty directories -/

/-- Whether the path leads to a directory with nothing in it. -/
structure FileTree.IsEmptyDirectory (t : FileTree) (p : Path) : Prop where
  hasZero : hasZero p.text = false
  located : t.locate t.current p.components = .ok (t.placeOf p)
  directory : t.find? (t.placeOf p) = some .directory
  below : ∀ n rest, t.find? (t.placeOf p ++ n :: rest) = none

variable {e : Entity} {root : Path} {t t' : FileTree} {done rest : List Artifact} {a : Artifact}

/-- A file of a slice lies at or below another only if they are the same. -/
theorem eq_of_isBelow {b : Artifact} (ha : a ∈ artifacts e) (hb : b ∈ artifacts e)
    (h : b.path.isBelow a.path = true) : a = b := by
  have hapart := artifacts_apart e
  refine List.Pairwise.forall_of_forall_of_flip
    (R := fun a b : Artifact => b.path.isBelow a.path = true → a = b) ?_ ?_ ?_ ha hb h
  · exact fun _ _ _ => rfl
  · refine hapart.imp fun hab hbelow => ?_
    rw [hab.2] at hbelow
    simp at hbelow
  · refine hapart.imp fun hab hbelow => ?_
    rw [hab.1] at hbelow
    simp at hbelow

/-- A file of a slice has a name in the project. -/
theorem exists_names_of_mem_artifacts (he : e.Accepted) (ha : a ∈ artifacts e) :
    ∃ n more, a.path.components = (n :: more).map .name := by
  obtain ⟨names, hn⟩ := exists_names_of_fits he (fits_of_mem_artifacts he ha)
  exact ⟨_, _, hn⟩

/-- The way to a file leads through directories that are there, and then below the project. -/
theorem way_cases (hempty : t.IsEmptyDirectory root) {names q : List String}
    (hn : a.path.components = names.map .name)
    (hq : q ∈ way t.current (root.join a.path).components) :
    t.find? q = some .directory ∨
      ∃ m z, m :: z <+: names ∧ m :: z ≠ names ∧ q = t.placeOf root ++ m :: z := by
  obtain ⟨-, hdirs, -⟩ := FileTree.locate_eq_ok_iff.mp hempty.located
  rw [components_join_of_names root hn, way_append, List.mem_append] at hq
  rcases hq with hq | hq
  · exact Or.inl (hdirs q hq)
  · obtain ⟨z, hz, hne, rfl⟩ := mem_way_names.mp hq
    cases z with
    | nil =>
      rw [List.append_nil]
      exact Or.inl hempty.directory
    | cons m z => exact Or.inr ⟨m, z, hz, hne, rfl⟩

/-- No way to a file of a slice leads through the place of a file of the slice. -/
theorem place_notMem_way (he : e.Accepted) (hempty : t.IsEmptyDirectory root)
    (ha : a ∈ artifacts e) {b : Artifact} (hb : b ∈ artifacts e) :
    a.place root t.current ∉ way t.current (root.join b.path).components := by
  intro hq
  obtain ⟨n, more, hn⟩ := exists_names_of_mem_artifacts he ha
  obtain ⟨n', more', hn'⟩ := exists_names_of_mem_artifacts he hb
  have hplace : a.place root t.current = t.placeOf root ++ n :: more :=
    place_of_names root t.current hn
  rcases way_cases hempty hn' hq with hd | ⟨m, z, hz, hne, heq⟩
  · rw [hplace, hempty.below] at hd
    simp at hd
  · rw [hplace, List.append_cancel_left_eq] at heq
    rw [← heq] at hz hne
    -- The place of `a` is on the way to `b`, so `b` lies below `a` or is the same file.
    have hbelow : b.path.isBelow a.path = true := by
      rw [Path.isBelow_iff, hn, hn']
      exact hz.map _
    obtain rfl := eq_of_isBelow ha hb hbelow
    rw [hn] at hn'
    exact hne (List.map_injective_iff.mpr (fun x y h => by simpa using h) hn')

/-- No file stands in the way of another, however many have been written. -/
theorem not_file_of_mem_way (he : e.Accepted) (hempty : t.IsEmptyDirectory root)
    {ways : List (List String)} (h : Wrote root ways done t t')
    (hdone : ∀ b ∈ done, b ∈ artifacts e) (ha : a ∈ artifacts e)
    {q : List String} (hq : q ∈ way t.current (root.join a.path).components)
    (content : ByteArray) : t'.find? q ≠ some (.file content) := by
  obtain ⟨n, more, hn⟩ := exists_names_of_mem_artifacts he ha
  intro hfile
  rcases way_cases hempty hn hq with hd | ⟨m, z, -, -, rfl⟩
  · rw [h.directory q hd] at hfile
    simp at hfile
  · have hne : ∀ b ∈ done, t.placeOf root ++ m :: z ≠ b.place root t.current := by
      intro b hb he'
      rw [he'] at hq
      exact place_notMem_way he hempty (hdone b hb) ha hq
    rcases h.others _ hne with hsame | ⟨-, -, hd⟩
    · rw [hsame, hempty.below] at hfile
      simp at hfile
    · rw [hd] at hfile
      simp at hfile

/-- A file of a slice can be written where no file and no directory is in its way. -/
theorem writeIn_of_mem_artifacts (he : e.Accepted) (ha : a ∈ artifacts e)
    (hzero : FileTree.hasZero root.text = false) (hwf : t.WellFormed) (hl : t.limits = .unlimited)
    (hway : ∀ q ∈ way t.current (root.join a.path).components,
      ∀ content, t.find? q ≠ some (.file content))
    (hend : t.find? (a.place root t.current) ≠ some .directory)
    (hout : a.place root t.current ∉ way t.current (root.join a.path).components) :
    (writeIn (root.join a.path) a.content.toUTF8 t).1 = .ok () := by
  obtain ⟨d, n, hp⟩ :=
    (placed_of_checkBatch he (checkBatch_artifacts he) root t.current).liesIn a ha
  have hfile := namesFile_of_mem_artifacts he ha
  have hplain := (fits_of_mem_artifacts he ha).isPlain
  exact FileTree.write_ok hp hwf hl (FileTree.hasZero_join hzero hfile.hasZero)
    ((Path.asksForDirectory_join root hplain).trans hfile.asksForDirectory) hway hend hout _

/--
**Every file of a slice can be written in an empty project.** The induction is on the files that are
left; those before them have been written, and nothing else has changed but directories.
-/
theorem writeFilesIn_isOk (he : e.Accepted) (hempty : t.IsEmptyDirectory root)
    (hl : t.limits = .unlimited) (hsplit : artifacts e = done ++ rest) (hwf : t'.WellFormed)
    (h : Wrote root (waysOf root t.current (artifacts e)) done t t') :
    (writeFilesIn root rest t').1 = .ok (rest.map (·.path)) := by
  induction rest generalizing done t' with
  | nil => rfl
  | cons a rest ih =>
    have hplaced := placed_of_checkBatch he (checkBatch_artifacts he) root t.current
    have ha : a ∈ artifacts e := by simp [hsplit]
    have hdone : ∀ b ∈ done, b ∈ artifacts e := by
      intro b hb
      simp [hsplit, hb]
    have hnew : ∀ b ∈ done, b.place root t.current ≠ a.place root t.current := by
      intro b hb heq
      have hnodup := hplaced.nodup
      rw [hsplit, List.map_append, List.nodup_append] at hnodup
      exact hnodup.2.2 _ (List.mem_map_of_mem hb) _ (by simp) heq
    obtain ⟨d, n, hp⟩ := hplaced.liesIn a ha
    have hok : (writeIn (root.join a.path) a.content.toUTF8 t').1 = .ok () := by
      refine writeIn_of_mem_artifacts he ha hempty.hasZero hwf (h.limits.trans hl) ?_ ?_ ?_
      · rw [h.current]
        intro q hq
        exact not_file_of_mem_way he hempty h hdone ha hq
      · rw [h.current]
        intro hdir
        obtain ⟨m, more, hn⟩ := exists_names_of_mem_artifacts he ha
        rcases h.others _ fun b hb => (hnew b hb).symm with hsame | ⟨hway, -, -⟩
        · rw [hsame, place_of_names root t.current hn] at hdir
          exact absurd (hempty.below m more) (by
            rw [FileTree.placeOf, hdir]
            simp)
        · obtain ⟨b, hb, hq⟩ := List.mem_flatMap.mp hway
          exact place_notMem_way he hempty ha hb hq
      · rw [h.current]
        exact place_notMem_way he hempty ha ha
    have hways : ∀ q ∈ way t.current (root.join a.path).components,
        q ∈ waysOf root t.current (artifacts e) :=
      fun q hq => List.mem_flatMap.mpr ⟨a, ha, hq⟩
    have hwf' := FileTree.wellFormed_write hp hwf a.content.toUTF8
    have hstep := h.step atomicWrites_inTree ⟨d, n, hp⟩ hways hnew
    rcases hw : writeIn (root.join a.path) a.content.toUTF8 t' with ⟨r, u⟩
    rw [hw] at hstep hok
    obtain rfl : r = .ok () := hok
    obtain rfl : (t'.write (root.join a.path) a.content.toUTF8).1 = u := congrArg Prod.snd hw
    rcases hstep with ⟨x, hx, -⟩ | ⟨-, hwrote⟩
    · simp at hx
    · rw [writeFilesIn_cons_of_ok hw, ih (by simpa using hsplit) hwf' hwrote]
      rfl

/-! ## Plans and runs -/

/-- Whether a plan has all files of the slice of its entity, and could not be better. -/
structure Plan.IsComplete (p : Plan) : Prop where
  /-- One file for each part that is one file, and one for each component. -/
  files : p.artifacts = (singleParts.filterMap (Part.singleFile? p.entity) ++
    p.entity.pickers.map (pickerSliceFile p.entity)).map SliceFile.artifact
  keys : p.artifacts.map (·.key) =
    singleParts.map Part.name ++ p.entity.pickers.map fun _ => Part.pickers.name
  /-- The components are those of the widgets of the fields, in the order of all widgets. -/
  pickers : p.entity.pickers.Sublist (Widget.all.filterMap Widget.picker?) ∧
    p.entity.pickers.Nodup ∧
    ∀ q, q ∈ p.entity.pickers ↔ ∃ f ∈ p.entity.fields, f.widget.picker? = some q
  accepted : checkBatch p.entity.sliceDir p.artifacts = .ok ()
  distinct : p.paths.Nodup
  apart : p.paths.Pairwise Path.Apart
  below : ∀ a ∈ p.artifacts, a.path.isBelow p.entity.sliceDir = true ∧
    a.path.components ≠ p.entity.sliceDir.components
  notBlank : ∀ a ∈ p.artifacts, isBlankText a.content = false

theorem isComplete_of_plan {keys : NamingKeys} {text : String} {p : Plan}
    (h : plan keys text = .ok p) : p.IsComplete := by
  have he := accepted_of_plan h
  have hartifacts := (plan_eq_ok_iff.mp h).2
  have hfits : ∀ a ∈ p.artifacts, a.Fits p.entity.sliceDir := by
    rw [hartifacts]
    exact fun a ha => fits_of_mem_artifacts he ha
  have hapart : p.paths.Pairwise Path.Apart := by
    rw [Plan.paths, hartifacts, List.pairwise_map]
    exact artifacts_apart p.entity
  refine ⟨hartifacts, ?_, ⟨sublist_pickers _, nodup_pickers _, fun q => mem_pickers_iff⟩,
    checkBatch_of_plan h, ?_, hapart, ?_, fun a ha => (hfits a ha).isNotBlank⟩
  · have hparts := congrArg (List.map Part.name) (map_part_files p.entity)
    rw [hartifacts, artifacts, List.map_map]
    simpa [Function.comp_def, SliceFile.artifact] using hparts
  · refine hapart.imp ?_
    rintro a _ hab rfl
    rw [Path.apart_iff] at hab
    exact hab.1 List.prefix_rfl
  · intro a ha
    refine ⟨(hfits a ha).isBelow, fun hsame => ?_⟩
    rw [hartifacts] at ha
    obtain ⟨f, hf, rfl⟩ := List.mem_map.mp ha
    obtain ⟨names, hnames, hc⟩ := components_of_mem_files hf
    have hnil : names = [] := by
      have heq := hc.symm.trans hsame
      unfold componentsAt at heq
      simpa using heq
    rw [hnil] at hnames
    exact absurd hnames (by decide)

/-- A run with a plan completes in an empty project. -/
theorem writeFilesIn_of_plan {keys : NamingKeys} {text : String} {p : Plan}
    (h : plan keys text = .ok p) (hwf : t.WellFormed) (hl : t.limits = .unlimited)
    (hempty : t.IsEmptyDirectory root) : (writeFilesIn root p.artifacts t).1 = .ok p.paths := by
  have hok := writeFilesIn_isOk (accepted_of_plan h) hempty hl (List.nil_append _).symm hwf
    (Wrote.refl root _ t)
  rw [← (plan_eq_ok_iff.mp h).2] at hok
  exact hok

/--
**A prepared entity has a plan with all files of its slice.** So in an empty project, without limits
for names and paths, a run fails exactly when the entity cannot be prepared, and for that reason.
-/
theorem plan_isComplete (keys : NamingKeys) (text : String) :
    (∀ e ws, prepare keys text = .ok (e, ws) →
      ∃ p, plan keys text = .ok p ∧ p.entity = e ∧ p.warnings = ws ∧ p.IsComplete) ∧
    ∀ (root : Path) (t : FileTree), t.WellFormed → t.limits = .unlimited →
      t.IsEmptyDirectory root → ∀ x,
        (((⟨root, keys⟩ : Generator).generateIn text t).1 = .error x ↔
          prepare keys text = .error x) := by
  constructor
  · intro e ws h
    have hp := plan_of_prepare h
    exact ⟨_, hp, rfl, rfl, isComplete_of_plan hp⟩
  · intro root t hwf hl hempty x
    cases hp : prepare keys text with
    | error y =>
      rw [Generator.generateIn_of_error ⟨root, keys⟩ text t (plan_of_prepare_error hp)]
      simp
    | ok r =>
      have hplan := plan_of_prepare hp
      rw [Generator.generateIn_of_plan ⟨root, keys⟩ text t hplan,
        writeFilesIn_of_plan hplan hwf hl hempty]
      simp [Except.map]

/-- A schema with a field that is edited with a component, and one that is not. -/
def postsSchema : String :=
  "\x7b\"namingConvention\":\x7b\"Users_1_000___\":\"Posts\",\"users_2_000___\":\"posts\","
    ++ "\"User_3_000___\":\"Post\"\x7d,\"fields\":["
    ++ "\x7b\"name\":\"title\",\"type\":\"STRING\",\"required\":true\x7d,"
    ++ "\x7b\"name\":\"body\",\"type\":\"RICHTEXT\"\x7d]\x7d"

/-- A tree without limits that has an empty directory for a project. -/
def emptyProject : FileTree :=
  ({ branch := .empty, limits := .unlimited } : FileTree).put ["project"] .directory

theorem find?_emptyProject (q : List String) :
    emptyProject.find? q = if q = ["project"] ∨ q = [] then some .directory else none := by
  rw [emptyProject, FileTree.find?_put _ (by simp)]
  by_cases hq : q = ["project"]
  · simp [hq]
  · by_cases h0 : q = []
    · simp [h0, FileTree.find?]
    · simp [hq, h0, FileTree.find?]

theorem wellFormed_emptyProject : emptyProject.WellFormed where
  current := rfl
  parent := by
    intro place n e h
    rw [find?_emptyProject] at h ⊢
    cases place with
    | nil => simp
    | cons m place => simp at h

theorem isEmptyDirectory_emptyProject : emptyProject.IsEmptyDirectory ⟨"project"⟩ where
  hasZero := by decide
  located := by
    have hc : (⟨"project"⟩ : Path).components = [.name "project"] := by decide
    rw [FileTree.placeOf, hc]
    rfl
  directory := by
    have hc : (⟨"project"⟩ : Path).components = [.name "project"] := by decide
    rw [FileTree.placeOf, hc]
    rfl
  below := by
    intro n rest
    have hc : (⟨"project"⟩ : Path).components = [.name "project"] := by decide
    rw [FileTree.placeOf, hc, find?_emptyProject, if_neg]
    simp [emptyProject, FileTree.put, PathComponent.step]

theorem plan_postsSchema :
    ∃ p, plan {} postsSchema = .ok p ∧
      (p.entity.root, p.entity.naming.folder) = (.dashboard, "posts") ∧
      p.entity.fields.map Field.name = ["title", "body"] ∧ p.entity.pickers = [.richText] := by
  let look (e : Entity) :=
    ((e.root, e.naming.folder), e.fields.map Field.name, e.pickers)
  obtain ⟨p, hp, hlook⟩ : ∃ p, plan {} postsSchema = .ok p ∧
      look p.entity = ((.dashboard, "posts"), ["title", "body"], [.richText]) := by
    apply exists_plan_of_chars
    · unfold postsSchema
      iterate 3 apply toList_append_eq String.toList_ofList
      exact String.toList_ofList
    · decide +kernel
  obtain ⟨hplace, hrest⟩ := Prod.mk.inj hlook
  obtain ⟨hnames, hpickers⟩ := Prod.mk.inj hrest
  exact ⟨p, hp, hplace, hnames, hpickers⟩

theorem plan_isComplete_posts :
    (∃ p, plan {} postsSchema = .ok p ∧ p.entity.fields.map Field.name = ["title", "body"] ∧
      p.entity.pickers = [.richText] ∧ p.IsComplete) ∧
      ∀ x, (Generator.generateIn ⟨⟨"project"⟩, {}⟩ postsSchema emptyProject).1 ≠ .error x := by
  obtain ⟨p, hp, -, hnames, hpickers⟩ := plan_postsSchema
  have h := (plan_eq_ok_iff.mp hp).1
  obtain ⟨q, hq, -, -, hcomplete⟩ := (plan_isComplete {} postsSchema).1 _ _ h
  obtain rfl : p = q := Except.ok.inj (hp.symm.trans hq)
  refine ⟨⟨p, hp, hnames, hpickers, hcomplete⟩, fun x hx => ?_⟩
  have hfails := ((plan_isComplete {} postsSchema).2 ⟨"project"⟩ emptyProject
    wellFormed_emptyProject rfl isEmptyDirectory_emptyProject x).mp hx
  rw [h] at hfails
  simp at hfails

end EntitySlice
