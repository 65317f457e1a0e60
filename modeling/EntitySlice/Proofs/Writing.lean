import EntitySlice.Generation
import EntitySlice.Proofs.FileTree.Write

/-!
# Writing a batch

The files of a batch are written one after the other. `Wrote` is the invariant: some files have
their content, and all that has happened besides is that directories have been made. One write
keeps it (`Wrote.grow`, `Wrote.put`), so a batch keeps it to the end or up to the first failure
(`writeFiles_cases`).

* `AtomicWrites` — all that is asked of a store: a write happens, or leaves the files as they are
-/

namespace EntitySlice

/-! ## Stores -/

/-- What comes of a write in a state, and the state after it. -/
def writeIn {σ : Type} [FileStore (StateM σ)] (p : Path) (c : ByteArray) (s : σ) :
    Except FileError Unit × σ :=
  (FileStore.write p c : StateM σ (Except FileError Unit)) s

/-- What comes of writing a batch in a state, and the state after it. -/
def writeFilesIn {σ : Type} [FileStore (StateM σ)] (root : Path) (as : List Artifact) (s : σ) :
    Except Failure (List Path) × σ :=
  (writeFiles root as : StateM σ (Except Failure (List Path))) s

/--
Whether a write in the store, whose files and directories are seen through `tree`, makes directories
on the way of the path and then happens or fails; when it fails, all files are as they were.
-/
structure AtomicWrites {σ : Type} [FileStore (StateM σ)] (tree : σ → FileTree) : Prop where
  write : ∀ {p d : Path} {n : String}, p.LiesIn d n → ∀ (c : ByteArray) (s : σ),
    ∃ u, FileTree.Grown (way (tree s).current p.components) (tree s) u ∧
      ((∃ x, (writeIn p c s).1 = .error x ∧ tree (writeIn p c s).2 = u) ∨
        u.Ready p ∧ (writeIn p c s).1 = .ok () ∧
          tree (writeIn p c s).2 = u.put ((tree s).placeOf p) (.file c))

/-- Writes to a tree of files are atomic. -/
theorem atomicWrites_inTree : AtomicWrites (fun t : FileTree => t) where
  write := by
    intro p d n hp c t
    obtain ⟨u, hg, ⟨x, hx⟩ | ⟨hr, hw⟩⟩ := FileTree.write_cases hp t c
    · refine ⟨u, hg, Or.inl ⟨x, ?_, ?_⟩⟩
      · exact congrArg Prod.snd hx
      · exact congrArg Prod.fst hx
    · refine ⟨u, hg, Or.inr ⟨hr, ?_, ?_⟩⟩
      · exact congrArg Prod.snd hw
      · exact congrArg Prod.fst hw

section First

variable {σ : Type} [FileStore (StateM σ)] {root : Path} {a : Artifact} {s s' : σ}

theorem writeFilesIn_nil (root : Path) (s : σ) : writeFilesIn root [] s = (.ok [], s) :=
  rfl

/-- A batch whose first file cannot be written ends there. -/
theorem writeFilesIn_cons_of_error {x : FileError}
    (h : writeIn (root.join a.path) a.content.toUTF8 s = (.error x, s')) (rest : List Artifact) :
    writeFilesIn root (a :: rest) s = (.error (.write (root.join a.path) x), s') := by
  unfold writeIn at h
  unfold writeFilesIn
  rw [writeFiles]
  simp only [bind, StateT.bind, h]
  rfl

/-- A batch whose first file has been written goes on with the others. -/
theorem writeFilesIn_cons_of_ok
    (h : writeIn (root.join a.path) a.content.toUTF8 s = (.ok (), s')) (rest : List Artifact) :
    writeFilesIn root (a :: rest) s =
      ((writeFilesIn root rest s').1.map (a.path :: ·), (writeFilesIn root rest s').2) := by
  unfold writeIn at h
  unfold writeFilesIn
  rw [writeFiles]
  simp only [bind, StateT.bind, h]
  rcases (writeFiles root rest : StateM σ (Except Failure (List Path))) s' with ⟨r, s''⟩
  cases r <;> rfl

/-- Behind files that have been written a batch goes on with the others. -/
theorem writeFilesIn_append_of_ok {pre : List Artifact} {paths : List Path}
    (h : (writeFilesIn root pre s).1 = .ok paths) (rest : List Artifact) :
    let out := writeFilesIn root rest (writeFilesIn root pre s).2
    writeFilesIn root (pre ++ rest) s = (out.1.map (paths ++ ·), out.2) := by
  induction pre generalizing s paths with
  | nil =>
    obtain rfl := Except.ok.inj h
    rw [writeFilesIn_nil, List.nil_append]
    rcases writeFilesIn root rest s with ⟨r, u⟩
    cases r <;> rfl
  | cons b pre ih =>
    rw [List.cons_append]
    rcases hw : writeIn (root.join b.path) b.content.toUTF8 s with ⟨r, u⟩
    cases r with
    | error x =>
      rw [writeFilesIn_cons_of_error hw] at h
      simp at h
    | ok _ =>
      rw [writeFilesIn_cons_of_ok hw] at h
      rw [writeFilesIn_cons_of_ok hw, writeFilesIn_cons_of_ok hw]
      cases hpre : (writeFilesIn root pre u).1 with
      | error x =>
        rw [hpre] at h
        simp [Except.map] at h
      | ok more =>
        rw [hpre] at h
        obtain rfl := Except.ok.inj h
        rw [ih hpre]
        rcases writeFilesIn root rest (writeFilesIn root pre u).2 with ⟨r', u'⟩
        cases r' <;> rfl

end First

/-! ## Places of a batch -/

/-- The place of a file of a batch, from the current directory. -/
def Artifact.place (root : Path) (current : List String) (a : Artifact) : List String :=
  placeFrom current (root.join a.path).components

/-- Whether all files of a batch lie in directories, each at a place of its own. -/
structure Placed (root : Path) (current : List String) (as : List Artifact) : Prop where
  liesIn : ∀ a ∈ as, ∃ d n, (root.join a.path).LiesIn d n
  nodup : (as.map (Artifact.place root current)).Nodup

/-- The places on the ways of a batch. -/
def waysOf (root : Path) (current : List String) (as : List Artifact) : List (List String) :=
  as.flatMap fun a => way current (root.join a.path).components

/-! ## The invariant -/

/--
Whether `t'` is `t` with the files of `done`, and besides with nothing but directories more, at some
of `ways`.
-/
structure Wrote (root : Path) (ways : List (List String)) (done : List Artifact)
    (t t' : FileTree) : Prop where
  current : t'.current = t.current
  limits : t'.limits = t.limits
  held : ∀ a ∈ done, t'.find? (a.place root t.current) = some (.file a.content.toUTF8)
  ready : ∀ a ∈ done, t'.Ready (root.join a.path)
  directory : ∀ q, t.find? q = some .directory → t'.find? q = some .directory
  others : ∀ q, (∀ a ∈ done, q ≠ a.place root t.current) →
    t'.find? q = t.find? q ∨ q ∈ ways ∧ t.find? q = none ∧ t'.find? q = some .directory

namespace Wrote

variable {root : Path} {ways : List (List String)} {done : List Artifact} {a : Artifact}
  {t t' u : FileTree} {d : Path} {n : String}

theorem refl (root : Path) (ways : List (List String)) (t : FileTree) : Wrote root ways [] t t where
  current := rfl
  limits := rfl
  held := by simp
  ready := by simp
  directory := fun _ h => h
  others := fun _ _ => Or.inl rfl

/-- Directories can be made without harm to the files. -/
theorem grow (h : Wrote root ways done t t') (hg : FileTree.Grown ways t' u) :
    Wrote root ways done t u where
  current := hg.current.trans h.current
  limits := hg.limits.trans h.limits
  held := fun a ha => hg.find?_of_some (h.held a ha)
  ready := by
    intro a ha
    refine (h.ready a ha).mono hg.current hg.limits (fun q hq => hg.find?_of_some hq) ?_
    have hheld := hg.find?_of_some (h.held a ha)
    rw [FileTree.placeOf, h.current]
    unfold Artifact.place at hheld
    rw [hheld]
    simp
  directory := fun q hq => hg.find?_of_some (h.directory q hq)
  others := by
    intro q hq
    rcases hg.find? q with he | ⟨hw, hn, hd⟩
    · rw [he]
      exact h.others q hq
    · rcases h.others q hq with he' | ⟨-, -, hd'⟩
      · exact Or.inr ⟨hw, he' ▸ hn, hd⟩
      · rw [hd'] at hn
        simp at hn

/-- A file more is written where none of the others is. -/
theorem put (h : Wrote root ways done t t') (hp : (root.join a.path).LiesIn d n)
    (hr : t'.Ready (root.join a.path))
    (hnew : ∀ b ∈ done, b.place root t.current ≠ a.place root t.current) :
    Wrote root ways (done ++ [a]) t
      (t'.put (a.place root t.current) (.file a.content.toUTF8)) := by
  have hplace : t'.placeOf (root.join a.path) = a.place root t.current := by
    rw [FileTree.placeOf, h.current]
    rfl
  have hne : a.place root t.current ≠ [] := hplace ▸ FileTree.placeOf_ne_nil hp t'
  have hfind := FileTree.find?_put t' hne (.file a.content.toUTF8)
  -- The place of the file is no directory, so every directory stays.
  have hdir : ∀ q, t'.find? q = some .directory →
      (t'.put (a.place root t.current) (.file a.content.toUTF8)).find? q = some .directory := by
    intro q hq
    rw [hfind, if_neg]
    · exact hq
    · rintro rfl
      exact hr.notDirectory (hplace ▸ hq)
  have hheld : ∀ b ∈ done ++ [a],
      (t'.put (a.place root t.current) (.file a.content.toUTF8)).find? (b.place root t.current) =
        some (.file b.content.toUTF8) := by
    intro b hb
    rw [List.mem_append, List.mem_singleton] at hb
    rcases hb with hb | rfl
    · rw [hfind, if_neg (hnew b hb)]
      exact h.held b hb
    · rw [hfind, if_pos rfl]
  refine ⟨h.current, h.limits, hheld, ?_, fun q hq => hdir q (h.directory q hq), ?_⟩
  · intro b hb
    have hb' : t'.Ready (root.join b.path) := by
      rw [List.mem_append, List.mem_singleton] at hb
      rcases hb with hb | rfl
      · exact h.ready b hb
      · exact hr
    refine hb'.mono rfl rfl hdir ?_
    rw [FileTree.placeOf, h.current]
    have hfile := hheld b hb
    unfold Artifact.place at hfile
    rw [Artifact.place, hfile]
    simp
  · intro q hq
    rw [List.forall_mem_append] at hq
    rw [hfind, if_neg (hq.2 a (by simp))]
    exact h.others q hq.1

/-- A file has not been written where there is a directory. -/
theorem notMem_of_directory (h : Wrote root ways done t t')
    (hd : t.find? (a.place root t.current) = some .directory) : a ∉ done := by
  intro ha
  have hheld := h.held a ha
  rw [h.directory _ hd] at hheld
  simp at hheld

end Wrote

/-! ## Runs -/

section Runs

variable {σ : Type} [FileStore (StateM σ)] {tree : σ → FileTree} {root : Path}
  {ways : List (List String)} {t : FileTree}

/-- One write keeps the invariant, whatever comes of it. -/
theorem Wrote.step (hs : AtomicWrites tree) {done : List Artifact} {a : Artifact} {s : σ}
    (h : Wrote root ways done t (tree s)) (hp : ∃ d n, (root.join a.path).LiesIn d n)
    (hways : ∀ q ∈ way t.current (root.join a.path).components, q ∈ ways)
    (hnew : ∀ b ∈ done, b.place root t.current ≠ a.place root t.current) :
    let out := writeIn (root.join a.path) a.content.toUTF8 s
    (∃ x, out.1 = .error x ∧ Wrote root ways done t (tree out.2)) ∨
      out.1 = .ok () ∧ Wrote root ways (done ++ [a]) t (tree out.2) := by
  obtain ⟨d, n, hp⟩ := hp
  obtain ⟨u, hg, hout⟩ := hs.write hp a.content.toUTF8 s
  rw [h.current] at hg
  have hu := h.grow (hg.mono hways)
  rcases hout with ⟨x, hx, ht⟩ | ⟨hr, hok, ht⟩
  · exact Or.inl ⟨x, hx, by rw [ht]; exact hu⟩
  · refine Or.inr ⟨hok, ?_⟩
    rw [ht, FileTree.placeOf, h.current]
    exact hu.put hp hr hnew

/--
**A batch is written in full, or up to the first file that cannot be written.** The files before it
have their content, and besides nothing has changed but that directories have been made.
-/
theorem writeFiles_cases (hs : AtomicWrites tree) {done rest : List Artifact} {s : σ}
    (hplaced : Placed root t.current (done ++ rest))
    (hways : ∀ a ∈ rest, ∀ q ∈ way t.current (root.join a.path).components, q ∈ ways)
    (h : Wrote root ways done t (tree s)) :
    let out := writeFilesIn root rest s
    out.1 = .ok (rest.map (·.path)) ∧ Wrote root ways (done ++ rest) t (tree out.2) ∨
      ∃ pre a post x, rest = pre ++ a :: post ∧ out.1 = .error (.write (root.join a.path) x) ∧
        Wrote root ways (done ++ pre) t (tree out.2) := by
  induction rest generalizing done s with
  | nil => exact Or.inl ⟨rfl, by rw [List.append_nil]; exact h⟩
  | cons a rest ih =>
    rw [List.forall_mem_cons] at hways
    -- The places of the batch are all different, so the file has one that no file before it has.
    have hnew : ∀ b ∈ done, b.place root t.current ≠ a.place root t.current := by
      intro b hb he
      have hnodup := hplaced.nodup
      rw [List.map_append, List.nodup_append] at hnodup
      exact hnodup.2.2 _ (List.mem_map_of_mem hb) _ (by simp) he
    have hstep := h.step hs (hplaced.liesIn a (by simp)) hways.1 hnew
    rcases hw : writeIn (root.join a.path) a.content.toUTF8 s with ⟨r, s'⟩
    rw [hw] at hstep
    rcases hstep with ⟨x, rfl, hx⟩ | ⟨rfl, hok⟩
    · rw [writeFilesIn_cons_of_error hw]
      exact Or.inr ⟨[], a, rest, x, rfl, rfl, by simpa using hx⟩
    · rw [writeFilesIn_cons_of_ok hw]
      rcases ih (by simpa using hplaced) hways.2 hok with
        ⟨hf, hwrote⟩ | ⟨pre, b, post, x, rfl, hf, hwrote⟩
      · exact Or.inl ⟨by rw [hf]; rfl, by simpa using hwrote⟩
      · exact Or.inr ⟨a :: pre, b, post, x, rfl, by rw [hf]; rfl, by simpa using hwrote⟩

/--
**A batch ends at a directory in the place of a file**, if the files before it can be written. They
are, and the directory stays.
-/
theorem writeFiles_of_directory (hs : AtomicWrites tree) {pre post : List Artifact} {a : Artifact}
    {s : σ} {paths : List Path} (hplaced : Placed root (tree s).current (pre ++ a :: post))
    (hpre : (writeFilesIn root pre s).1 = .ok paths)
    (hd : (tree s).find? (a.place root (tree s).current) = some .directory) :
    let out := writeFilesIn root (pre ++ a :: post) s
    ∃ x, out.1 = .error (.write (root.join a.path) x) ∧
      Wrote root (waysOf root (tree s).current (pre ++ [a])) pre (tree s) (tree out.2) := by
  have hways : ∀ b ∈ pre ++ [a], ∀ q ∈ way (tree s).current (root.join b.path).components,
      q ∈ waysOf root (tree s).current (pre ++ [a]) :=
    fun b hb q hq => List.mem_flatMap.mpr ⟨b, hb, hq⟩
  have hnodup := hplaced.nodup
  rw [List.map_append, List.nodup_append] at hnodup
  have hplaced' : Placed root (tree s).current ([] ++ pre) :=
    ⟨fun b hb => hplaced.liesIn b (List.mem_append_left _ hb), hnodup.1⟩
  rcases writeFiles_cases hs hplaced' (fun b hb => hways b (List.mem_append_left _ hb))
    (Wrote.refl root _ _) with ⟨-, hwrote⟩ | ⟨_, _, _, x, -, hx, -⟩
  · rw [List.nil_append] at hwrote
    have hstep := hwrote.step hs (hplaced.liesIn a (by simp)) (hways a (by simp)) ?_
    · rcases hw : writeIn (root.join a.path) a.content.toUTF8 (writeFilesIn root pre s).2 with
        ⟨r, u⟩
      rw [hw] at hstep
      rcases hstep with ⟨x, rfl, hkept⟩ | ⟨-, hboth⟩
      · rw [writeFilesIn_append_of_ok hpre, writeFilesIn_cons_of_error hw]
        exact ⟨x, rfl, hkept⟩
      · exact absurd (by simp) (hboth.notMem_of_directory hd)
    · intro b hb
      exact hnodup.2.2 _ (List.mem_map_of_mem hb) _ (by simp)
  · rw [hpre] at hx
    simp at hx

end Runs

/-! ## Generations -/

/-- A run on a schema in a state: what it goes through and what comes of it, and the state after. -/
def Generator.runIn {σ : Type} [FileStore (StateM σ)] (g : Generator) (text : String) (s : σ) :
    Run Report × σ :=
  (g.run text : StateM σ (Run Report)) s

/-- What comes of a run on a schema in a state, and the state after it. -/
def Generator.generateIn {σ : Type} [FileStore (StateM σ)] (g : Generator) (text : String)
    (s : σ) : Except Failure Report × σ :=
  (g.generate text : StateM σ (Except Failure Report)) s

/-- The report on a plan whose files have been written. -/
def Plan.report (p : Plan) (files : List Path) : Report :=
  ⟨p.entity.naming.folder, p.entity.root, files, p.warnings⟩

namespace Generator

variable {σ : Type} [FileStore (StateM σ)] (g : Generator) (text : String) (s : σ)

theorem generateIn_eq : g.generateIn text s = ((g.runIn text s).1.result, (g.runIn text s).2) :=
  rfl

/-- A run without a plan changes nothing. -/
theorem runIn_of_error {x : Failure} (h : plan g.keys text = .error x) :
    g.runIn text s = (⟨(planRun g.keys text).stages, .error x⟩, s) := by
  unfold plan at h
  unfold runIn run
  simp only [h]
  rfl

/-- A run with a plan writes its files. -/
theorem runIn_of_plan {p : Plan} (h : plan g.keys text = .ok p) :
    g.runIn text s =
      match writeFilesIn g.projectRoot p.artifacts s with
      | (.error x, s) => (⟨(planRun g.keys text).stages ++ [.failed], .error x⟩, s)
      | (.ok files, s) =>
        (⟨(planRun g.keys text).stages ++ [.persisted, .completed], .ok (p.report files)⟩, s) := by
  unfold plan at h
  unfold runIn run writeFilesIn
  simp only [h, bind, StateT.bind]
  rcases (writeFiles g.projectRoot p.artifacts :
    StateM σ (Except Failure (List Path))) s with ⟨r, s'⟩
  cases r <;> rfl

theorem generateIn_of_error {x : Failure} (h : plan g.keys text = .error x) :
    g.generateIn text s = (.error x, s) := by
  rw [generateIn_eq, runIn_of_error g text s h]

theorem generateIn_of_plan {p : Plan} (h : plan g.keys text = .ok p) :
    g.generateIn text s =
      ((writeFilesIn g.projectRoot p.artifacts s).1.map p.report,
        (writeFilesIn g.projectRoot p.artifacts s).2) := by
  rw [generateIn_eq, runIn_of_plan g text s h]
  rcases writeFilesIn g.projectRoot p.artifacts s with ⟨r, s'⟩
  cases r <;> rfl

end Generator

end EntitySlice
