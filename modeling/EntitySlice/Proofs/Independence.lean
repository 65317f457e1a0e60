import EntitySlice.Proofs.EmptyProject
import EntitySlice.Proofs.Interleaving

/-!
# Runs for different slices

The directories of two slices have a part of their names in common: that of the application, and
that of the root if it is the same. Then they go apart (`Entity.exists_fork`), and so do the ways to
all files in them. No write of one run is in the way of a write of the other, not even by failing
(`independent_ofPlan`).

* `interleave_generate` — the writes of two such runs can be done in any order
-/

namespace EntitySlice

open EntitySlice.Slice

variable {e₁ e₂ : Entity} {a b : Artifact} {root : Path}

/-! ## Where the ways go apart -/

/-- The place of a slice among all slices. -/
def Entity.key (e : Entity) : SliceRoot × String := (e.root, e.naming.folder)

/-- The names that lead to different slices go apart. -/
theorem Entity.exists_fork (h : e₁.key ≠ e₂.key) :
    ∃ common x y ys zs, x ≠ y ∧ e₁.sliceNames = common ++ x :: ys ∧
      e₂.sliceNames = common ++ y :: zs := by
  by_cases hroot : e₁.root = e₂.root
  · refine ⟨["src", "app", e₁.root.name], e₁.naming.folder, e₂.naming.folder, [], [], ?_, rfl, ?_⟩
    · intro hfolder
      exact h (Prod.ext hroot hfolder)
    · rw [hroot]
      rfl
  · refine ⟨["src", "app"], e₁.root.name, e₂.root.name, [e₁.naming.folder], [e₂.naming.folder],
      ?_, rfl, rfl⟩
    intro hname
    exact hroot (SliceRoot.eq_of_name_eq hname)

/-- A file of a slice lies in the directory of the slice or in one below it. -/
theorem exists_liesIn_of_mem_artifacts (he : e₁.Accepted) (ha : a ∈ artifacts e₁) (root : Path) :
    ∃ d n names, (root.join a.path).LiesIn d n ∧
      d.components = root.components ++ (e₁.sliceNames ++ names).map .name := by
  obtain ⟨names, hnames, hc⟩ := exists_components_of_mem_artifacts ha
  have hne : names ≠ [] := by
    rintro rfl
    exact absurd hnames (by decide)
  have hn : a.path.components = (e₁.sliceNames ++ names).map .name := by
    rw [hc, componentsAt, Entity.components_sliceDir he, List.map_append]
  obtain ⟨d, n, hp, hd⟩ := Path.exists_liesIn_of_names (components_join_of_names root hn)
    (by simp [Entity.sliceNames])
  refine ⟨d, n, names.dropLast, hp, ?_⟩
  rw [hd, List.dropLast_append_of_ne_nil hne]

/-- **Writes of files of different slices can change places.** -/
theorem write_comm_of_mem_artifacts (h₁ : e₁.Accepted) (h₂ : e₂.Accepted)
    (hne : e₁.key ≠ e₂.key) (ha : a ∈ artifacts e₁) (hb : b ∈ artifacts e₂) {t : FileTree}
    (hwf : t.WellFormed) (c c' : ByteArray) :
    FileTree.Commute t (·.write (root.join a.path) c) (·.write (root.join b.path) c') := by
  obtain ⟨d, m, us, hp, hd⟩ := exists_liesIn_of_mem_artifacts h₁ ha root
  obtain ⟨e, n, vs, hq, he⟩ := exists_liesIn_of_mem_artifacts h₂ hb root
  obtain ⟨common, x, y, ys, zs, hxy, hfirst, hsecond⟩ := Entity.exists_fork hne
  -- Both directories lie behind the common way, below different names.
  have hd' : d.components =
      root.components ++ common.map .name ++ (x :: (ys ++ us)).map .name := by
    rw [hd, hfirst]
    simp
  have he' : e.components =
      root.components ++ common.map .name ++ (y :: (zs ++ vs)).map .name := by
    rw [he, hsecond]
    simp
  have hheads : (x :: (ys ++ us)).head? ≠ (y :: (zs ++ vs)).head? := by simpa using hxy
  exact FileTree.write_comm hwf hp hq hd' he' (by simp) (by simp) hheads c c'

/-! ## Two runs -/

/-- No write of a plan is in the way of a plan for another slice. -/
theorem independent_ofPlan {keys₁ keys₂ : NamingKeys} {text₁ text₂ : String} {p₁ p₂ : Plan}
    (h₁ : plan keys₁ text₁ = .ok p₁) (h₂ : plan keys₂ text₂ = .ok p₂)
    (hne : p₁.entity.key ≠ p₂.entity.key) (root : Path) :
    Writer.Independent (.ofPlan root p₁) (.ofPlan root p₂) where
  first := (placed_of_checkBatch (accepted_of_plan h₁) (checkBatch_of_plan h₁) root []).liesIn
  second := (placed_of_checkBatch (accepted_of_plan h₂) (checkBatch_of_plan h₂) root []).liesIn
  comm := by
    intro a ha b hb t hwf
    have ha' : a ∈ artifacts p₁.entity := (plan_eq_ok_iff.mp h₁).2 ▸ ha
    have hb' : b ∈ artifacts p₂.entity := (plan_eq_ok_iff.mp h₂).2 ▸ hb
    exact write_comm_of_mem_artifacts (accepted_of_plan h₁) (accepted_of_plan h₂) hne ha' hb' hwf
      a.content.toUTF8 b.content.toUTF8

/-- A run is all that its writer has to do. -/
theorem generateIn_eq_finish {g : Generator} {text : String} {p : Plan}
    (h : plan g.keys text = .ok p) (t : FileTree) :
    g.generateIn text t =
      (((Writer.ofPlan g.projectRoot p).finish t).1.map p.report,
        ((Writer.ofPlan g.projectRoot p).finish t).2) := by
  rw [Generator.generateIn_of_plan g text t h]
  unfold Writer.finish Writer.ofPlan
  cases (writeFilesIn g.projectRoot p.artifacts t).1 <;> rfl

variable {keys₁ keys₂ : NamingKeys} {text₁ text₂ : String} {p₁ p₂ : Plan} {t : FileTree}

/-- When both writers have stopped, all is as if the second run had waited for the first. -/
theorem run_eq_generate (h₁ : plan keys₁ text₁ = .ok p₁) (h₂ : plan keys₂ text₂ = .ok p₂)
    (hne : p₁.entity.key ≠ p₂.entity.key) (root : Path) (hwf : t.WellFormed)
    (schedule : List Side) :
    let out := (Duo.mk t (.ofPlan root p₁) (.ofPlan root p₂)).run schedule
    let alone := (⟨root, keys₁⟩ : Generator).generateIn text₁ t
    let after := (⟨root, keys₂⟩ : Generator).generateIn text₂ alone.2
    out.isDone = true → out.first.result.map p₁.report = alone.1 ∧
      out.second.result.map p₂.report = after.1 ∧ after.2.Same out.tree := by
  intro out alone after hdone
  have hfinish := Duo.run_eq_finish (s := ⟨t, .ofPlan root p₁, .ofPlan root p₂⟩) hwf
    (independent_ofPlan h₁ h₂ hne root) hdone
  obtain ⟨hfirst, hsecond, hsame⟩ := hfinish
  have halone : alone = _ := generateIn_eq_finish (g := ⟨root, keys₁⟩) h₁ t
  have hafter : after = _ := generateIn_eq_finish (g := ⟨root, keys₂⟩) h₂ alone.2
  rw [hafter, halone]
  exact ⟨congrArg _ hfirst, congrArg _ hsecond, hsame⟩

/--
**Two runs for different slices can have their turns in any order.** With a turn for each file both
come to an end, and then what has come of each, and what is in the tree, is as if one of them had
waited for the other, whichever it was.
-/
theorem interleave_generate (h₁ : plan keys₁ text₁ = .ok p₁) (h₂ : plan keys₂ text₂ = .ok p₂)
    (hne : (p₁.entity.root, p₁.entity.naming.folder) ≠ (p₂.entity.root, p₂.entity.naming.folder))
    (root : Path) (hwf : t.WellFormed) (schedule : List Side) :
    let out := (Duo.mk t (.ofPlan root p₁) (.ofPlan root p₂)).run schedule
    let g₁ : Generator := ⟨root, keys₁⟩
    let g₂ : Generator := ⟨root, keys₂⟩
    (p₁.artifacts.length ≤ schedule.count .first →
      p₂.artifacts.length ≤ schedule.count .second → out.isDone = true) ∧
    (out.isDone = true →
      (out.first.result.map p₁.report = (g₁.generateIn text₁ t).1 ∧
        out.second.result.map p₂.report = (g₂.generateIn text₂ (g₁.generateIn text₁ t).2).1 ∧
        out.tree.Same (g₂.generateIn text₂ (g₁.generateIn text₁ t).2).2) ∧
      (out.first.result.map p₁.report = (g₁.generateIn text₁ (g₂.generateIn text₂ t).2).1 ∧
        out.second.result.map p₂.report = (g₂.generateIn text₂ t).1 ∧
        out.tree.Same (g₁.generateIn text₁ (g₂.generateIn text₂ t).2).2)) := by
  intro out g₁ g₂
  constructor
  · exact Duo.isDone_run ⟨t, .ofPlan root p₁, .ofPlan root p₂⟩
  · intro hdone
    obtain ⟨hfirst, hsecond, hsame⟩ := run_eq_generate h₁ h₂ hne root hwf schedule hdone
    -- With the sides changed the other run comes first.
    have hswap : (Duo.mk t (.ofPlan root p₂) (.ofPlan root p₁)).run (schedule.map Side.other) =
        out.swap :=
      Duo.run_swap ⟨t, .ofPlan root p₁, .ofPlan root p₂⟩ schedule
    have hdone' : out.swap.isDone = true := by
      unfold Duo.isDone at hdone ⊢
      rwa [Bool.and_comm]
    have hback := run_eq_generate h₂ h₁ hne.symm root hwf (schedule.map Side.other)
    rw [hswap] at hback
    obtain ⟨hsecond', hfirst', hsame'⟩ := hback hdone'
    exact ⟨⟨hfirst, hsecond, hsame.symm⟩, hfirst', hsecond', hsame'.symm⟩

/-- A schema like `postsSchema` with another name. -/
def pagesSchema : String :=
  "\x7b\"namingConvention\":\x7b\"Users_1_000___\":\"Pages\",\"users_2_000___\":\"pages\","
    ++ "\"User_3_000___\":\"Page\"\x7d,\"fields\":["
    ++ "\x7b\"name\":\"title\",\"type\":\"STRING\",\"required\":true\x7d,"
    ++ "\x7b\"name\":\"body\",\"type\":\"RICHTEXT\"\x7d]\x7d"

theorem plan_pagesSchema :
    ∃ p, plan {} pagesSchema = .ok p ∧
      (p.entity.root, p.entity.naming.folder) = (.dashboard, "pages") := by
  apply exists_plan_of_chars fun e => (e.root, e.naming.folder)
  · unfold pagesSchema
    iterate 3 apply toList_append_eq String.toList_ofList
    exact String.toList_ofList
  · decide +kernel

theorem interleave_generate_posts_pages :
    ∃ p₁ p₂, plan {} postsSchema = .ok p₁ ∧ plan {} pagesSchema = .ok p₂ ∧
      ∀ schedule : List Side, p₁.artifacts.length ≤ schedule.count .first →
        p₂.artifacts.length ≤ schedule.count .second →
          let out := (Duo.mk emptyProject (.ofPlan ⟨"project"⟩ p₁)
            (.ofPlan ⟨"project"⟩ p₂)).run schedule
          out.isDone = true ∧
            out.first.result.map p₁.report =
              (Generator.generateIn ⟨⟨"project"⟩, {}⟩ postsSchema emptyProject).1 ∧
            out.second.result.map p₂.report =
              (Generator.generateIn ⟨⟨"project"⟩, {}⟩ pagesSchema emptyProject).1 := by
  obtain ⟨p₁, h₁, hposts, -⟩ := plan_postsSchema
  obtain ⟨p₂, h₂, hpages⟩ := plan_pagesSchema
  have hne : (p₁.entity.root, p₁.entity.naming.folder) ≠
      (p₂.entity.root, p₂.entity.naming.folder) := by
    rw [hposts, hpages]
    simp
  refine ⟨p₁, p₂, h₁, h₂, fun schedule hfirst hsecond => ?_⟩
  obtain ⟨hends, hresult⟩ :=
    interleave_generate h₁ h₂ hne ⟨"project"⟩ wellFormed_emptyProject schedule
  have hdone := hends hfirst hsecond
  obtain ⟨⟨hposts', -, -⟩, -, hpages', -⟩ := hresult hdone
  exact ⟨hdone, hposts', hpages'⟩

end EntitySlice
