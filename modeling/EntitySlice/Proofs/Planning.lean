import EntitySlice.Generation
import EntitySlice.Proofs.Batch

/-!
# What a run plans

Nothing can go wrong between the resolved names and the checked files: a run that gets so far plans
all files of the slice (`plan_of_prepare`). Before that it fails while it parses the schema or
resolves the names (`planRun_cases`).

* `accepted_of_prepare` — what is known about the entity of a run that gets so far
* `plan_eq_ok_iff` — what is planned, and when
-/

namespace EntitySlice

open EntitySlice.Slice

/-! ## Accepted schemas -/

/-- A computation that ends well has done so in each of its steps. -/
theorem exists_of_bind_eq_ok {ε α β : Type} {x : Except ε α} {f : α → Except ε β} {b : β}
    (h : x >>= f = .ok b) : ∃ a, x = .ok a ∧ f a = .ok b := by
  cases x with
  | error e => simp [bind, Except.bind] at h
  | ok a => exact ⟨a, rfl, h⟩

theorem eq_ok_of_toOption {ε α : Type} {x : Except ε α} {a : α} (h : x.toOption = some a) :
    x = .ok a := by
  cases x with
  | error e => simp [Except.toOption] at h
  | ok b => rw [Option.some.inj h]

theorem isFolderName_of_resolve {keys : NamingKeys} {block : Json.Members} {n : Naming}
    {ws : List Warning} (h : Naming.resolve keys block = .ok (n, ws)) :
    isFolderName n.folder = true := by
  unfold Naming.resolve at h
  obtain ⟨plural, -, h⟩ := exists_of_bind_eq_ok h
  obtain ⟨pluralLower, -, h⟩ := exists_of_bind_eq_ok h
  obtain ⟨singular, -, h⟩ := exists_of_bind_eq_ok h
  obtain ⟨singularLower?, -, h⟩ := exists_of_bind_eq_ok h
  dsimp only at h
  split at h
  · next hfolder =>
    -- The flag comes after the check, and the folder does not depend on it.
    obtain ⟨flag, -, h⟩ := exists_of_bind_eq_ok h
    obtain ⟨rfl, -⟩ := Prod.mk.inj (Except.ok.inj h)
    exact hfolder
  · obtain ⟨_, h, -⟩ := exists_of_bind_eq_ok h
    simp [throw, throwThe, MonadExceptOf.throw] at h

theorem exists_document_of_parse {text : String} {s : Schema} (h : Schema.parse text = .ok s) :
    ∃ members, s.document = .object members := by
  unfold Schema.parse Schema.ofValue at h
  split at h
  · split at h
    · obtain ⟨naming, -, h⟩ := exists_of_bind_eq_ok h
      obtain ⟨fields, -, h⟩ := exists_of_bind_eq_ok h
      rw [← Except.ok.inj h]
      exact ⟨_, rfl⟩
    · simp at h
  · simp at h

/-! ## Stages -/

namespace Run

variable {α β : Type}

@[simp] theorem bind_ok (stages : List Stage) (a : α) (next : α → Run β) :
    (⟨stages, .ok a⟩ : Run α) >>= next = ⟨stages ++ (next a).stages, (next a).result⟩ := rfl

@[simp] theorem bind_error (stages : List Stage) (x : Failure) (next : α → Run β) :
    (⟨stages, .error x⟩ : Run α) >>= next = ⟨stages, .error x⟩ := rfl

@[simp] theorem step_ok (a : α) (f : β → Failure) (next : List Stage) :
    step ((Except.ok a).mapError f) next = ⟨next, .ok a⟩ := rfl

@[simp] theorem step_error (x : β) (f : β → Failure) (next : List Stage) :
    step ((Except.error x : Except β α).mapError f) next = ⟨[.failed], .error (f x)⟩ := rfl

@[simp] theorem pure_eq (a : α) : (pure a : Run α) = ⟨[], .ok a⟩ := rfl

end Run

/-- The stages of a run before it renders anything. -/
def Stage.early : List Stage := [.received, .parsed, .namingResolved, .classified, .rootResolved]

/-- The stages of a run that renders parts. -/
def Stage.late (ps : List Part) : List Stage := ps.map fun p => .rendering p.name

/-- The stages of a run up to its plan. -/
def Stage.planned : List Stage := early ++ late Part.all

/-- The stages of a run that completes. -/
def Stage.course : List Stage := planned ++ [.persisted, .completed]

/-- How a run fails that has gone through `k` stages: it cannot read the schema, or its names. -/
def Failure.IsEarly (k : Nat) (x : Failure) : Prop :=
  (k = 1 ∧ ∃ fault, x = .schema fault) ∨ k = 2 ∧ ∃ fault, x = .naming fault

/--
A run up to the entity fails early, or it goes through all early stages and the entity is accepted.
-/
theorem prepareRun_cases (keys : NamingKeys) (text : String) :
    (∃ k x, x.IsEarly k ∧ prepareRun keys text =
      ⟨Stage.early.take k ++ [.failed], .error x⟩) ∨
    ∃ e ws, e.Accepted ∧ prepareRun keys text = ⟨Stage.early, .ok (e, ws)⟩ := by
  cases hs : Schema.parse text with
  | error fault =>
    left
    refine ⟨1, .schema fault, Or.inl ⟨rfl, fault, rfl⟩, ?_⟩
    simp [prepareRun, Run.reach, Stage.early, hs]
  | ok s =>
    cases hn : Naming.resolve keys s.naming with
    | error fault =>
      left
      refine ⟨2, .naming fault, Or.inr ⟨rfl, fault, rfl⟩, ?_⟩
      simp [prepareRun, Run.reach, Stage.early, hs, hn]
    | ok r =>
      right
      obtain ⟨n, ws⟩ := r
      refine ⟨s.entity n, ws ++ fieldWarnings s.fields, ⟨?_, ?_⟩, ?_⟩
      · exact isFolderName_of_resolve hn
      · exact exists_document_of_parse hs
      · simp [prepareRun, Run.reach, Stage.early, hs, hn]

/-- Rendering never fails. -/
theorem renderRun_eq (e : Entity) (ps : List Part) :
    renderRun e ps =
      ⟨Stage.late ps, .ok ((ps.flatMap (Part.files e)).map SliceFile.artifact)⟩ := by
  induction ps with
  | nil => rfl
  | cons p ps ih =>
    have hp : p.artifacts e = .ok ((p.files e).map SliceFile.artifact) := by
      unfold Part.artifacts
      rw [Part.files?_eq]
    rw [renderRun, ih, hp, List.flatMap_cons, List.map_append]
    simp [Run.reach, Stage.late]

/-! ## Plans -/

/-- **A run that gets to the entity plans all files of the slice.** -/
theorem planRun_cases (keys : NamingKeys) (text : String) :
    (∃ k x, x.IsEarly k ∧ prepare keys text = .error x ∧
      planRun keys text = ⟨Stage.early.take k ++ [.failed], .error x⟩) ∨
    ∃ e ws, e.Accepted ∧ prepare keys text = .ok (e, ws) ∧
      planRun keys text = ⟨Stage.planned, .ok ⟨e, artifacts e, ws⟩⟩ := by
  rcases prepareRun_cases keys text with ⟨k, x, hx, h⟩ | ⟨e, ws, he, h⟩
  · left
    refine ⟨k, x, hx, by rw [prepare, h], ?_⟩
    rw [planRun, h, Run.bind_error]
  · right
    refine ⟨e, ws, he, by rw [prepare, h], ?_⟩
    have hcheck := checkBatch_artifacts he
    have hrender : renderRun e Part.all = ⟨Stage.late Part.all, .ok (artifacts e)⟩ := by
      rw [renderRun_eq, flatMap_files]
      rfl
    rw [planRun, h, Run.bind_ok]
    simp [hrender, hcheck, Stage.planned]

theorem accepted_of_prepare {keys : NamingKeys} {text : String} {e : Entity} {ws : List Warning}
    (h : prepare keys text = .ok (e, ws)) : e.Accepted := by
  rcases planRun_cases keys text with ⟨_, x, -, hx, _⟩ | ⟨e', ws', he, hp, _⟩
  · rw [hx] at h
    simp at h
  · rw [hp] at h
    obtain ⟨rfl, -⟩ := Prod.mk.inj (Except.ok.inj h)
    exact he

/-- **What is planned is the slice of the prepared entity.** -/
theorem plan_eq_ok_iff {keys : NamingKeys} {text : String} {p : Plan} :
    plan keys text = .ok p ↔
      prepare keys text = .ok (p.entity, p.warnings) ∧ p.artifacts = artifacts p.entity := by
  unfold plan
  rcases planRun_cases keys text with ⟨_, x, -, hx, h⟩ | ⟨e, ws, -, hp, h⟩
  · rw [hx, h]
    simp
  · rw [hp, h]
    constructor
    · intro hok
      obtain rfl := Except.ok.inj hok
      exact ⟨rfl, rfl⟩
    · rintro ⟨hok, hart⟩
      obtain ⟨rfl, rfl⟩ := Prod.mk.inj (Except.ok.inj hok)
      rw [← hart]

theorem plan_of_prepare {keys : NamingKeys} {text : String} {e : Entity} {ws : List Warning}
    (h : prepare keys text = .ok (e, ws)) : plan keys text = .ok ⟨e, artifacts e, ws⟩ :=
  plan_eq_ok_iff.mpr ⟨h, rfl⟩

theorem accepted_of_plan {keys : NamingKeys} {text : String} {p : Plan}
    (h : plan keys text = .ok p) : p.entity.Accepted :=
  accepted_of_prepare (plan_eq_ok_iff.mp h).1

/-- The plan has one file for a part that is one file. -/
theorem filter_artifacts_of_plan {keys : NamingKeys} {text : String} {p : Plan}
    (h : plan keys text = .ok p) {q : Part} {f : SliceFile}
    (hq : q.singleFile? p.entity = some f) :
    p.artifacts.filter (·.key = q.name) = [f.artifact] := by
  rw [(plan_eq_ok_iff.mp h).2]
  exact filter_artifacts hq

/-- The entity that the characters of a schema describe. -/
def entityOf? (keys : NamingKeys) (cs : List Char) : Option Entity := do
  let v ← (Json.scan cs).bind Json.ofTokens?
  let s ← (Schema.ofValue v).toOption
  let (n, _) ← (Naming.resolve keys s.naming).toOption
  return s.entity n

/--
What can be said of an entity shows that there is a plan for it. The characters of the schema are
given for themselves: a literal has them at hand, while to take them from a text is slow.
-/
theorem exists_plan_of_chars {α : Type} {keys : NamingKeys} {text : String} {cs : List Char} {a : α}
    (look : Entity → α) (hcs : text.toList = cs) (h : (entityOf? keys cs).map look = some a) :
    ∃ p, plan keys text = .ok p ∧ look p.entity = a := by
  obtain ⟨e, he, rfl⟩ := Option.map_eq_some_iff.mp h
  simp only [entityOf?, Option.bind_eq_bind, Option.bind_eq_some_iff] at he
  obtain ⟨v, ⟨tokens, hscan, hv⟩, s, hs, ⟨n, ws⟩, hn, he⟩ := he
  have hparse : Schema.parse text = .ok s := by
    rw [Schema.parse, Json.parse?, hcs, hscan, Option.bind_some, hv]
    exact eq_ok_of_toOption hs
  have hprepare : prepare keys text = .ok (s.entity n, ws ++ fieldWarnings s.fields) := by
    simp [prepare, prepareRun, Run.reach, hparse, eq_ok_of_toOption hn]
  obtain rfl := Option.some.inj he
  exact ⟨_, plan_of_prepare hprepare, rfl⟩

/-- What is planned is accepted. -/
theorem checkBatch_of_plan {keys : NamingKeys} {text : String} {p : Plan}
    (h : plan keys text = .ok p) : checkBatch p.entity.sliceDir p.artifacts = .ok () := by
  rw [(plan_eq_ok_iff.mp h).2]
  exact checkBatch_artifacts (accepted_of_plan h)

theorem plan_of_prepare_error {keys : NamingKeys} {text : String} {x : Failure}
    (h : prepare keys text = .error x) : plan keys text = .error x := by
  rcases planRun_cases keys text with ⟨_, y, -, hy, hrun⟩ | ⟨e, ws, -, hp, _⟩
  · rw [hy] at h
    rw [plan, hrun, Except.error.inj h]
  · rw [hp] at h
    simp at h

end EntitySlice
