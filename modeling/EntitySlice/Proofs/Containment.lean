import EntitySlice.Proofs.EmptyProject

/-!
# Where a run writes

A run on a schema writes at or below the directory of the slice and nowhere else, however it ends;
on the way to that directory it makes what directories are missing (`generate_contained`). After a
run that completes, each file of the plan has its content, and the same run again changes nothing.

* `Contained` — all that may happen to a tree
* `contained_writeFiles` — it is all that happens when an accepted batch is written
-/

namespace EntitySlice

open EntitySlice.Slice

/-- The content of the file at a place, if there is one. -/
def FileTree.fileAt? (t : FileTree) (q : List String) : Option ByteArray :=
  match t.find? q with
  | some (.file c) => some c
  | _ => none

/--
Whether a tree has changed at or below the directory of the slice only, and besides by directories
that were missing on the way to it.
-/
structure Contained (e : Entity) (root : Path) (t t' : FileTree) : Prop where
  current : t'.current = t.current
  limits : t'.limits = t.limits
  outside : ∀ q, ¬e.place root t.current <+: q →
    t'.find? q = t.find? q ∨
      q ∈ e.way root t.current ∧ t.find? q = none ∧ t'.find? q = some .directory

/-- A new directory is no file. -/
theorem fileAt?_eq {t t' : FileTree} {q : List String} {places : List (List String)}
    (h : t'.find? q = t.find? q ∨
      q ∈ places ∧ t.find? q = none ∧ t'.find? q = some .directory) :
    t'.fileAt? q = t.fileAt? q := by
  unfold FileTree.fileAt?
  rcases h with h | ⟨-, hn, hd⟩
  · rw [h]
  · rw [hn, hd]

namespace Contained

variable {e : Entity} {root : Path} {t t' : FileTree}

/-- No file outside the directory of the slice is changed. -/
theorem fileAt?_outside (h : Contained e root t t') {q : List String}
    (hq : ¬e.place root t.current <+: q) : t'.fileAt? q = t.fileAt? q :=
  fileAt?_eq (h.outside q hq)

/-- No file below another root is changed. -/
theorem fileAt?_of_root_ne (h : Contained e root t t') {r : SliceRoot} (hr : r ≠ e.root)
    {q : List String}
    (hq : placeFrom t.current root.components ++ ["src", "app", r.name] <+: q) :
    t'.fileAt? q = t.fileAt? q := by
  refine h.fileAt?_outside fun hbelow => hr ?_
  obtain ⟨x, rfl⟩ := hq
  obtain ⟨y, hy⟩ := hbelow
  unfold Entity.place Entity.sliceNames at hy
  rw [List.append_assoc, List.append_assoc, List.append_cancel_left_eq] at hy
  simp only [List.cons_append, List.nil_append, List.cons.injEq] at hy
  exact SliceRoot.eq_of_name_eq hy.2.2.1.symm

end Contained

variable {e : Entity} {root : Path} {as done : List Artifact} {t t' : FileTree}

theorem contained_of_wrote (he : e.Accepted) (hcheck : checkBatch e.sliceDir as = .ok ())
    (hdone : ∀ a ∈ done, a ∈ as) (h : Wrote root (waysOf root t.current as) done t t') :
    Contained e root t t' where
  current := h.current
  limits := h.limits
  outside := by
    intro q hq
    have hfits := (checkBatch_eq_ok_iff.mp hcheck).1
    have hne : ∀ a ∈ done, q ≠ a.place root t.current := by
      rintro a ha rfl
      exact hq (isPrefix_place_of_fits he (hfits a (hdone a ha)) root t.current)
    rcases h.others q hne with hsame | ⟨hway, hn, hd⟩
    · exact Or.inl hsame
    · rcases mem_waysOf_slice he hcheck hway with hway | hbelow
      · exact Or.inr ⟨hway, hn, hd⟩
      · exact absurd hbelow hq

/-- What an accepted batch does to a tree, in full or up to a failure. -/
theorem writeFiles_cases_of_checkBatch {σ : Type} [FileStore (StateM σ)] {tree : σ → FileTree}
    (hs : AtomicWrites tree) (he : e.Accepted) (hcheck : checkBatch e.sliceDir as = .ok ())
    (root : Path) (s : σ) :
    let out := writeFilesIn root as s
    let ways := waysOf root (tree s).current as
    out.1 = .ok (as.map (·.path)) ∧ Wrote root ways as (tree s) (tree out.2) ∨
      ∃ pre a post x, as = pre ++ a :: post ∧ out.1 = .error (.write (root.join a.path) x) ∧
        Wrote root ways pre (tree s) (tree out.2) := by
  refine writeFiles_cases hs (placed_of_checkBatch he hcheck root _) ?_ (Wrote.refl root _ _)
  intro a ha q hq
  exact List.mem_flatMap.mpr ⟨a, ha, hq⟩

/-- **Writing an accepted batch is contained, however it ends.** -/
theorem contained_writeFiles (he : e.Accepted) (hcheck : checkBatch e.sliceDir as = .ok ())
    (root : Path) (t : FileTree) : Contained e root t (writeFilesIn root as t).2 := by
  rcases writeFiles_cases_of_checkBatch atomicWrites_inTree he hcheck root t with
    ⟨-, h⟩ | ⟨pre, a, post, x, rfl, -, h⟩
  · exact contained_of_wrote he hcheck (fun _ ha => ha) h
  · exact contained_of_wrote he hcheck (fun _ ha => List.mem_append_left _ ha) h

/-! ## The same run again -/

/-- What is there already is written without a change. -/
theorem same_put {u : FileTree} {place : List String} {c : ByteArray} (hp : place ≠ [])
    (h : t.find? place = some (.file c)) (hu : t.Same u) : t.Same (u.put place (.file c)) where
  current := hu.current
  limits := hu.limits
  find? := by
    intro q hq
    rw [FileTree.find?_put u hp]
    by_cases hqp : q = place
    · rw [if_pos hqp, hqp, h]
    · rw [if_neg hqp]
      exact hu.find? q hq

/-- A batch that has been written is written again without a change. -/
theorem writeFilesIn_again {ways : List (List String)} (h : Wrote root ways done t t')
    (hplaced : Placed root t.current done) {rest : List Artifact} (hrest : ∀ a ∈ rest, a ∈ done)
    {u : FileTree} (hu : t'.Same u) :
    ∃ u', writeFilesIn root rest u = (.ok (rest.map (·.path)), u') ∧ t'.Same u' := by
  induction rest generalizing u with
  | nil => exact ⟨u, rfl, hu⟩
  | cons a rest ih =>
    rw [List.forall_mem_cons] at hrest
    obtain ⟨d, n, hp⟩ := hplaced.liesIn a hrest.1
    have hplace : u.placeOf (root.join a.path) = a.place root t.current := by
      rw [FileTree.placeOf, hu.current, h.current]
      rfl
    have hheld := h.held a hrest.1
    -- The first run has left all that the write needs, and the file itself.
    have hready : u.Ready (root.join a.path) := by
      refine (h.ready a hrest.1).mono hu.current hu.limits
        (fun q hq => (hu.find? q trivial).trans hq) ?_
      rw [hu.find? _ trivial, FileTree.placeOf, h.current]
      unfold Artifact.place at hheld
      rw [hheld]
      simp
    have hw : writeIn (root.join a.path) a.content.toUTF8 u =
        (.ok (), u.put (a.place root t.current) (.file a.content.toUTF8)) := by
      have hwrite := FileTree.write_of_ready hp hready a.content.toUTF8
      rw [hplace] at hwrite
      exact congrArg Prod.swap hwrite
    have hne : a.place root t.current ≠ [] := hplace ▸ FileTree.placeOf_ne_nil hp u
    obtain ⟨u', hu', hsame⟩ := ih hrest.2 (same_put hne hheld hu)
    refine ⟨u', ?_, hsame⟩
    rw [writeFilesIn_cons_of_ok hw, hu']
    rfl

/-! ## Runs -/

/-- What a run leaves behind that completes. -/
structure Completed (g : Generator) (text : String) (p : Plan) (report : Report)
    (t t' : FileTree) : Prop where
  files : report.files = p.paths
  /-- Each file of the plan can be read. -/
  read : ∀ a ∈ p.artifacts, t'.read (g.projectRoot.join a.path) = .ok a.content.toUTF8
  /-- Every other file is what it was. -/
  others : ∀ q, (∀ a ∈ p.artifacts, q ≠ a.place g.projectRoot t.current) →
    t'.fileAt? q = t.fileAt? q
  /-- The same run again completes and changes nothing. -/
  again : (g.generateIn text t').1 = .ok report ∧ t'.Same (g.generateIn text t').2

theorem completed_of_plan {t : FileTree} {g : Generator} {text : String} {p : Plan}
    {report : Report} (hp : plan g.keys text = .ok p)
    (hreport : (g.generateIn text t).1 = .ok report) :
    Completed g text p report t (g.generateIn text t).2 := by
  have he := accepted_of_plan hp
  have hcheck := checkBatch_of_plan hp
  have hplaced := placed_of_checkBatch he hcheck g.projectRoot t.current
  rw [Generator.generateIn_of_plan g text t hp] at hreport ⊢
  rcases writeFiles_cases_of_checkBatch atomicWrites_inTree he hcheck g.projectRoot t with
    ⟨hok, hw⟩ | ⟨pre, a, post, x, -, hx, -⟩
  · generalize (writeFilesIn g.projectRoot p.artifacts t).2 = t' at hw ⊢
    rw [hok, Except.map, Except.ok.injEq] at hreport
    subst hreport
    obtain ⟨u, hu, hsame⟩ := writeFilesIn_again hw hplaced (fun _ ha => ha) (FileTree.Agree.refl t')
    refine ⟨rfl, ?_, fun q hq => fileAt?_eq (hw.others q hq), ?_, ?_⟩
    · intro a ha
      obtain ⟨d, n, hlies⟩ := hplaced.liesIn a ha
      refine FileTree.read_of_ready hlies (hw.ready a ha) ?_
      rw [FileTree.placeOf, hw.current]
      exact hw.held a ha
    · rw [Generator.generateIn_of_plan g text t' hp, hu]
      rfl
    · rw [Generator.generateIn_of_plan g text t' hp, hu]
      exact hsame
  · rw [hx] at hreport
    simp [Except.map] at hreport

/--
**A run writes in the directory of its slice and nowhere else.** If no entity can be prepared it
changes nothing. Otherwise it is contained, however it ends, and so is writing any accepted batch;
in particular, no file below another root changes. When it completes, each file of the plan can be
read, every other file is what it was, the report lists the paths of the plan, and the same run
again completes with the same report and leaves everything as it is.
-/
theorem generate_contained (t : FileTree) (g : Generator) (text : String) :
    (∀ x, prepare g.keys text = .error x → g.generateIn text t = (.error x, t)) ∧
    (∀ e ws, prepare g.keys text = .ok (e, ws) →
      t.placeOf (g.projectRoot.join e.sliceDir) = e.place g.projectRoot t.current ∧
      Contained e g.projectRoot t (g.generateIn text t).2 ∧
      (∀ r, r ≠ e.root → ∀ q,
        placeFrom t.current g.projectRoot.components ++ ["src", "app", r.name] <+: q →
          (g.generateIn text t).2.fileAt? q = t.fileAt? q) ∧
      ∀ as, checkBatch e.sliceDir as = .ok () →
        Contained e g.projectRoot t (writeFilesIn g.projectRoot as t).2) ∧
    ∀ report, (g.generateIn text t).1 = .ok report →
      ∃ p, plan g.keys text = .ok p ∧
        Completed g text p report t (g.generateIn text t).2 := by
  have hcontained : ∀ p, plan g.keys text = .ok p →
      Contained p.entity g.projectRoot t (g.generateIn text t).2 := by
    intro p hp
    rw [Generator.generateIn_of_plan g text t hp]
    exact contained_writeFiles (accepted_of_plan hp) (checkBatch_of_plan hp) g.projectRoot t
  refine ⟨?_, ?_, ?_⟩
  · intro x hx
    exact Generator.generateIn_of_error g text t (plan_of_prepare_error hx)
  · intro e ws hp
    have he := accepted_of_prepare hp
    have hc := hcontained _ (plan_of_prepare hp)
    refine ⟨placeOf_sliceDir he t _, hc, fun r hr q hq => hc.fileAt?_of_root_ne hr hq, ?_⟩
    intro as hcheck
    exact contained_writeFiles he hcheck g.projectRoot t
  · intro report hreport
    cases hp : plan g.keys text with
    | error x =>
      rw [Generator.generateIn_of_error g text t hp] at hreport
      simp at hreport
    | ok p =>
      exact ⟨p, rfl, completed_of_plan hp hreport⟩

theorem generate_contained_posts :
    let g : Generator := ⟨⟨"project"⟩, {}⟩
    ∃ p, plan {} postsSchema = .ok p ∧
      Contained p.entity ⟨"project"⟩ emptyProject (g.generateIn postsSchema emptyProject).2 ∧
      Completed g postsSchema p (p.report p.paths) emptyProject
        (g.generateIn postsSchema emptyProject).2 := by
  intro g
  obtain ⟨p, hp, -⟩ := plan_postsSchema
  obtain ⟨-, hcontained, hcompleted⟩ := generate_contained emptyProject g postsSchema
  have hreport : (g.generateIn postsSchema emptyProject).1 = .ok (p.report p.paths) := by
    rw [Generator.generateIn_of_plan g postsSchema emptyProject hp,
      writeFilesIn_of_plan hp wellFormed_emptyProject rfl isEmptyDirectory_emptyProject]
    rfl
  obtain ⟨q, hq, hdone⟩ := hcompleted _ hreport
  obtain rfl : p = q := Except.ok.inj (hp.symm.trans hq)
  exact ⟨p, hp, (hcontained _ _ (plan_eq_ok_iff.mp hp).1).2.1, hdone⟩

end EntitySlice
