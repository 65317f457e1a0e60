import EntitySlice.Proofs.Containment

/-!
# The stages of a run and its files

A run plans all its files before it writes the first one. So a run that fails early has changed
nothing, and a run that fails later has written the first files of its plan and no other
(`run_staged`). All that is asked of the store is that its writes are atomic.

* `Committed` — some files have their content, and all others are what they were
* `Staged` — all that a run can be
-/

namespace EntitySlice

open EntitySlice.Slice

/-- Whether the files of `done` have their content, and every other file is what it was. -/
structure Committed (root : Path) (done : List Artifact) (t t' : FileTree) : Prop where
  held : ∀ a ∈ done, t'.fileAt? (a.place root t.current) = some a.content.toUTF8
  others : ∀ q, (∀ a ∈ done, q ≠ a.place root t.current) → t'.fileAt? q = t.fileAt? q

theorem Wrote.committed {root : Path} {ways : List (List String)} {done : List Artifact}
    {t t' : FileTree} (h : Wrote root ways done t t') : Committed root done t t' where
  held := by
    intro a ha
    unfold FileTree.fileAt?
    rw [h.held a ha]
  others := fun q hq => fileAt?_eq (h.others q hq)

/--
All that a run on a schema can be, seen from the state before it: the stages that it goes through,
what comes of it, and the files in the state after it.
-/
inductive Staged {σ : Type} (tree : σ → FileTree) (g : Generator) (text : String) (s : σ) :
    Run Report × σ → Prop
  /-- It fails before it has a plan, and nothing has changed. -/
  | rejected (k : Nat) (x : Failure) (early : x.IsEarly k)
      (unplanned : plan g.keys text = .error x) :
      Staged tree g text s (⟨Stage.course.take k ++ [.failed], .error x⟩, s)
  /-- A file of the plan cannot be written: those before it are, and all others are untouched. -/
  | interrupted (p : Plan) (pre post : List Artifact) (a : Artifact) (x : FileError) (s' : σ)
      (planned : plan g.keys text = .ok p) (split : p.artifacts = pre ++ a :: post)
      (committed : Committed g.projectRoot pre (tree s) (tree s'))
      (untouched : ∀ b ∈ a :: post, (tree s').fileAt? (b.place g.projectRoot (tree s).current) =
        (tree s).fileAt? (b.place g.projectRoot (tree s).current)) :
      Staged tree g text s
        (⟨Stage.planned ++ [.failed], .error (.write (g.projectRoot.join a.path) x)⟩, s')
  /-- All files of the plan are written. -/
  | completed (p : Plan) (s' : σ) (planned : plan g.keys text = .ok p)
      (committed : Committed g.projectRoot p.artifacts (tree s) (tree s')) :
      Staged tree g text s (⟨Stage.course, .ok (p.report p.paths)⟩, s')

variable {σ : Type} {tree : σ → FileTree}

/-- Only a run that has completed has been persisted. -/
theorem Staged.of_persisted {g : Generator} {text : String} {s : σ} {out : Run Report × σ}
    (h : Staged tree g text s out) (hmem : .persisted ∈ out.1.stages) :
    ∃ p, plan g.keys text = .ok p ∧ Committed g.projectRoot p.artifacts (tree s) (tree out.2) := by
  cases h with
  | rejected k x early unplanned =>
    rcases early with ⟨rfl, -⟩ | ⟨rfl, -⟩
    · exact absurd (show Stage.persisted ∈ Stage.course.take 1 ++ [.failed] from hmem) (by decide)
    · exact absurd (show Stage.persisted ∈ Stage.course.take 2 ++ [.failed] from hmem) (by decide)
  | interrupted p pre post a x s' planned split committed untouched =>
    exact absurd (show Stage.persisted ∈ Stage.planned ++ [.failed] from hmem) (by decide)
  | completed p s' planned committed => exact ⟨p, planned, committed⟩

theorem stages_of_plan {keys : NamingKeys} {text : String} {p : Plan}
    (h : plan keys text = .ok p) : (planRun keys text).stages = Stage.planned := by
  rcases planRun_cases keys text with ⟨_, x, -, hx, hrun⟩ | ⟨e, ws, -, -, hrun⟩
  · rw [plan, hrun] at h
    simp at h
  · rw [hrun]

/--
**A run goes through its stages in order and writes all files of its plan, or it stops at one stage
and fails.** If it fails before it has a plan, nothing has changed. If a file cannot be written, the
failure says which one; the files before it have their content, and this one, those after it and
every other file are what they were. The run is persisted only if all files have been written.
-/
theorem run_staged [FileStore (StateM σ)] (hs : AtomicWrites tree) (g : Generator)
    (text : String) (s : σ) :
    Staged tree g text s (g.runIn text s) ∧
      (.persisted ∈ (g.runIn text s).1.stages → ∃ p, plan g.keys text = .ok p ∧
        Committed g.projectRoot p.artifacts (tree s) (tree (g.runIn text s).2)) := by
  have hstaged : Staged tree g text s (g.runIn text s) := by
    cases hp : plan g.keys text with
    | error x =>
      rw [Generator.runIn_of_error g text s hp]
      rcases planRun_cases g.keys text with ⟨k, y, hy, hprep, hrun⟩ | ⟨e, ws, -, -, hrun⟩
      · rw [plan, hrun] at hp
        obtain rfl := Except.error.inj hp
        rw [hrun]
        have htake : Stage.early.take k = Stage.course.take k := by
          rcases hy with ⟨rfl, -⟩ | ⟨rfl, -⟩ <;> rfl
        rw [htake]
        exact .rejected k y hy (plan_of_prepare_error hprep)
      · rw [plan, hrun] at hp
        simp at hp
    | ok p =>
      have he := accepted_of_plan hp
      have hcheck := checkBatch_of_plan hp
      have hnodup := (placed_of_checkBatch he hcheck g.projectRoot (tree s).current).nodup
      have hcases := writeFiles_cases_of_checkBatch hs he hcheck g.projectRoot s
      rw [Generator.runIn_of_plan g text s hp, stages_of_plan hp]
      rcases hw : writeFilesIn g.projectRoot p.artifacts s with ⟨r, s'⟩
      rw [hw] at hcases
      rcases hcases with ⟨rfl, hwrote⟩ | ⟨pre, a, post, x, hsplit, rfl, hwrote⟩
      · exact .completed p s' hp hwrote.committed
      · refine .interrupted p pre post a x s' hp hsplit hwrote.committed ?_
        intro b hb
        refine hwrote.committed.others _ ?_
        intro c hc he
        -- A file before the failure and one after it would have the same place.
        rw [hsplit, List.map_append, List.nodup_append] at hnodup
        exact hnodup.2.2 _ (List.mem_map_of_mem hc) _ (List.mem_map_of_mem hb) he.symm
  exact ⟨hstaged, hstaged.of_persisted⟩

/-- The names that lead to the model of the slice of `postsSchema`. -/
def occupiedPlace : List String :=
  ["project", "src", "app", "dashboard", "posts", "api", "v1", "model.ts"]

/-- A project with a directory in the place of the model, which is the second file of the slice. -/
def occupiedProject : FileTree :=
  (emptyProject.makeDirectories [] (occupiedPlace.map .name)).1

theorem wellFormed_occupiedProject : occupiedProject.WellFormed :=
  FileTree.wellFormed_makeDirectories wellFormed_emptyProject rfl

theorem find?_occupiedPlace : occupiedProject.find? occupiedPlace = some .directory := rfl

/-- There are only directories in the project. -/
theorem not_file_occupiedProject (q : List String) (content : ByteArray) :
    occupiedProject.find? q ≠ some (.file content) := by
  intro hfile
  rcases (FileTree.grown_makeDirectories emptyProject [] (occupiedPlace.map .name)).find? q with
    hsame | ⟨-, -, hd⟩
  · rw [← occupiedProject, hfile, find?_emptyProject] at hsame
    split at hsame <;> simp at hsame
  · rw [← occupiedProject, hfile] at hd
    simp at hd

section

variable {e : Entity} {part : Part} {a : Artifact} {content : Content}
  (hplace : (e.root, e.naming.folder) = (.dashboard, "posts")) (he : e.Accepted)
  (h : part.single? e = some (a.path, content))

include hplace he h

/-- The names that lead to the files of the slice of `postsSchema`. -/
theorem components_join_of_single? : ((⟨"project"⟩ : Path).join a.path).components =
    (["project", "src", "app", "dashboard", "posts"] ++ part.names).map .name := by
  obtain ⟨hroot, hfolder⟩ := Prod.mk.inj hplace
  have hslice : e.sliceNames = ["src", "app", "dashboard", "posts"] := by
    rw [Entity.sliceNames, hroot, hfolder]
    rfl
  have hproject : (⟨"project"⟩ : Path).components = ["project"].map .name := by decide
  have hnames : a.path.components = (e.sliceNames ++ part.names).map .name := by
    rw [Part.components_of_single? e h, Entity.components_sliceDir he, List.map_append]
  rw [components_join_of_names _ hnames, hproject, hslice]
  rfl

theorem place_occupiedProject : a.place ⟨"project"⟩ occupiedProject.current =
    ["project", "src", "app", "dashboard", "posts"] ++ part.names := by
  rw [Artifact.place, components_join_of_single? hplace he h, placeFrom_names]
  rfl

/-- A file can be written where there is nothing. -/
theorem writeIn_occupiedProject (ha : a ∈ artifacts e)
    (hnone : occupiedProject.find? (["project", "src", "app", "dashboard", "posts"] ++
      part.names) = none) :
    (writeIn ((⟨"project"⟩ : Path).join a.path) a.content.toUTF8 occupiedProject).1 = .ok () := by
  have hat := place_occupiedProject hplace he h
  refine writeIn_of_mem_artifacts he ha (by decide) wellFormed_occupiedProject rfl
    (fun q _ content => not_file_occupiedProject q content) ?_ ?_
  · rw [hat, hnone]
    simp
  · rw [hat, components_join_of_single? hplace he h, mem_way_names]
    rintro ⟨z, -, hz, heq⟩
    exact hz heq.symm

end

/-- The first file of the slice is written, and the second cannot be written. -/
theorem writeFilesIn_occupiedProject {p : Plan} (hp : plan {} postsSchema = .ok p)
    (hplace : (p.entity.root, p.entity.naming.folder) = (.dashboard, "posts")) :
    ∃ first model rest x t, p.artifacts = first :: model :: rest ∧ model.key = Part.model.name ∧
      writeFilesIn ⟨"project"⟩ p.artifacts occupiedProject =
        (.error (.write ((⟨"project"⟩ : Path).join model.path) x), t) ∧
      Committed ⟨"project"⟩ [first] occupiedProject t := by
  have he := accepted_of_plan hp
  obtain ⟨first, model, rest, hsplit, ⟨_, hfirst⟩, ⟨_, hmodel⟩, hkey⟩ :
      ∃ first model rest, artifacts p.entity = [first] ++ model :: rest ∧
        (∃ content, Part.sliceSchema.single? p.entity = some (first.path, content)) ∧
        (∃ content, Part.model.single? p.entity = some (model.path, content)) ∧
        model.key = Part.model.name :=
    ⟨_, _, _, rfl, ⟨_, rfl⟩, ⟨_, rfl⟩, rfl⟩
  have hartifacts : p.artifacts = [first] ++ model :: rest := (plan_eq_ok_iff.mp hp).2.trans hsplit
  have hok := writeIn_occupiedProject hplace he hfirst (by simp [hsplit]) rfl
  have hpre : (writeFilesIn ⟨"project"⟩ [first] occupiedProject).1 = .ok [first.path] := by
    rw [writeFilesIn_cons_of_ok (Prod.ext hok rfl)]
    rfl
  have hplaced := placed_of_checkBatch he (checkBatch_artifacts he) ⟨"project"⟩
    occupiedProject.current
  rw [hsplit] at hplaced
  have hdirectory : occupiedProject.find? (model.place ⟨"project"⟩ occupiedProject.current) =
      some .directory := by
    rw [place_occupiedProject hplace he hmodel]
    exact find?_occupiedPlace
  obtain ⟨x, hx, hwrote⟩ := writeFiles_of_directory atomicWrites_inTree hplaced hpre hdirectory
  rw [hartifacts]
  exact ⟨first, model, rest, x, _, rfl, hkey, Prod.ext hx rfl, hwrote.committed⟩

theorem run_staged_posts :
    let g : Generator := ⟨⟨"project"⟩, {}⟩
    AtomicWrites (fun t : FileTree => t) ∧
      ∃ p, plan {} postsSchema = .ok p ∧
        (Staged (fun t : FileTree => t) g postsSchema emptyProject
            (g.runIn postsSchema emptyProject) ∧
          Committed ⟨"project"⟩ p.artifacts emptyProject (g.runIn postsSchema emptyProject).2) ∧
        Staged (fun t : FileTree => t) g postsSchema occupiedProject
            (g.runIn postsSchema occupiedProject) ∧
          ∃ first model rest x, p.artifacts = first :: model :: rest ∧
            model.key = Part.model.name ∧
            (g.runIn postsSchema occupiedProject).1 =
              ⟨Stage.planned ++ [.failed], .error (.write (g.projectRoot.join model.path) x)⟩ ∧
            Committed ⟨"project"⟩ [first] occupiedProject
              (g.runIn postsSchema occupiedProject).2 := by
  intro g
  obtain ⟨p, hp, hplace, -⟩ := plan_postsSchema
  obtain ⟨hstaged, hpersisted⟩ := run_staged atomicWrites_inTree g postsSchema emptyProject
  obtain ⟨hstaged', -⟩ := run_staged atomicWrites_inTree g postsSchema occupiedProject
  refine ⟨atomicWrites_inTree, p, hp, ⟨hstaged, ?_⟩, hstaged', ?_⟩
  · have hok : (writeFilesIn g.projectRoot p.artifacts emptyProject).1 = .ok p.paths :=
      writeFilesIn_of_plan hp wellFormed_emptyProject rfl isEmptyDirectory_emptyProject
    obtain ⟨q, hq, hcommitted⟩ := hpersisted (by
      rw [Generator.runIn_of_plan g postsSchema emptyProject hp]
      rcases hw : writeFilesIn g.projectRoot p.artifacts emptyProject with ⟨r, t⟩
      rw [hw] at hok
      rw [show r = .ok p.paths from hok]
      simp)
    obtain rfl : p = q := Except.ok.inj (hp.symm.trans hq)
    exact hcommitted
  · obtain ⟨first, model, rest, x, t, hsplit, hkey, hwrite, hcommitted⟩ :=
      writeFilesIn_occupiedProject hp hplace
    have hrun : g.runIn postsSchema occupiedProject =
        (⟨Stage.planned ++ [.failed], .error (.write (g.projectRoot.join model.path) x)⟩, t) := by
      rw [Generator.runIn_of_plan g postsSchema occupiedProject hp, stages_of_plan hp]
      rw [show g.projectRoot = ⟨"project"⟩ from rfl, hwrite]
    rw [hrun]
    exact ⟨first, model, rest, x, hsplit, hkey, rfl, hcommitted⟩

end EntitySlice
