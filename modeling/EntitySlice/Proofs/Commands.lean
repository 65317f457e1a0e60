import EntitySlice.Command.Outcome
import EntitySlice.Proofs.EmptyProject

/-!
# The commands agree

To validate a schema, to list the files of its slice and to generate the slice are one run that is
carried on for longer and longer. The first two only read (`Undisturbed`), and nothing can go wrong
in a plan that is prepared. So the commands fail alike, the list has the files that are written, and
the warnings are the same (`commands_agree`).

What is written is seen in a record that is kept besides the files (`Recorded`): every path that
something is written to, in order, whether or not the write succeeds.
-/

namespace EntitySlice

open EntitySlice.Number

/-! ## Computations that only read -/

/-- Whether a computation leaves the state as it is. -/
def Undisturbed {σ α : Type} (x : StateM σ α) : Prop := ∀ s, (x s).2 = s

section

variable {σ α β : Type}

theorem undisturbed_pure (a : α) : Undisturbed (pure a : StateM σ α) := fun _ => rfl

theorem Undisturbed.bind {x : StateM σ α} {f : α → StateM σ β} (hx : Undisturbed x)
    (hf : ∀ a, Undisturbed (f a)) : Undisturbed (x >>= f) := by
  intro s
  show (f (x s).1 (x s).2).2 = s
  rw [hf, hx]

/-- Whether it changes nothing to look at the files of a store. -/
structure ReadsOnly (σ : Type) [FileStore (StateM σ)] : Prop where
  read : ∀ p, Undisturbed (FileStore.read p : StateM σ _)
  contains : ∀ p, Undisturbed (FileStore.contains p : StateM σ _)

/-- It changes nothing to look at a tree of files. -/
theorem readsOnly_fileTree : ReadsOnly FileTree where
  read := fun _ _ => rfl
  contains := fun _ _ => rfl

variable [FileStore (StateM σ)] (hσ : ReadsOnly σ)

include hσ

theorem ReadsOnly.readText (p : Path) : Undisturbed (readText p : StateM σ _) := by
  refine (hσ.read p).bind fun r => ?_
  split
  · exact undisturbed_pure _
  · split <;> exact undisturbed_pure _

/-- It changes nothing to look for the configuration. -/
theorem ReadsOnly.load (file? : Option Path) (env : Environment) :
    Undisturbed (Config.load file? env : StateM σ _) := by
  have withFile : Undisturbed (env.withFile : StateM σ _) := by
    refine (hσ.readText variablesFile).bind fun r => ?_
    split <;> exact undisturbed_pure _
  have readFile (p : Path) : Undisturbed (Config.readFile p : StateM σ _) := by
    refine (hσ.readText p).bind fun r => ?_
    split <;> exact undisturbed_pure _
  have readBase : Undisturbed (Config.readBase file? : StateM σ _) := by
    unfold Config.readBase
    split
    · exact readFile _
    · refine (hσ.contains defaultConfigFile).bind fun b => ?_
      split
      · exact readFile _
      · exact undisturbed_pure _
  exact withFile.bind fun env => readBase.bind fun r => undisturbed_pure _

end

/-! ## The record of writes -/

/-- A store with the paths that something was written to, or was to be, in order. -/
structure Recorded (σ : Type) where
  store : σ
  paths : List Path

instance {σ : Type} [FileStore (StateM σ)] : FileStore (StateM (Recorded σ)) where
  read p := fun s =>
    let out := (FileStore.read p : StateM σ _) s.store
    (out.1, { s with store := out.2 })
  write p content := fun s =>
    let out := (FileStore.write p content : StateM σ _) s.store
    (out.1, ⟨out.2, s.paths ++ [p]⟩)
  contains p := fun s =>
    let out := (FileStore.contains p : StateM σ _) s.store
    (out.1, { s with store := out.2 })

/-- Whether a computation on the store with the record does what one on the store itself does. -/
def Follows {σ α : Type} (y : StateM (Recorded σ) α) (x : StateM σ α) : Prop :=
  ∀ s, (y s).1 = (x s.store).1 ∧ (y s).2.store = (x s.store).2

section

variable {σ α β : Type}

theorem follows_pure (a : α) : Follows (pure a : StateM (Recorded σ) α) (pure a) :=
  fun _ => ⟨rfl, rfl⟩

theorem Follows.bind {y : StateM (Recorded σ) α} {x : StateM σ α} {g : α → StateM (Recorded σ) β}
    {f : α → StateM σ β} (h : Follows y x) (hf : ∀ a, Follows (g a) (f a)) :
    Follows (y >>= g) (x >>= f) := by
  intro s
  obtain ⟨ha, hs⟩ := h s
  have hnext := hf (x s.store).1 (y s).2
  rw [hs] at hnext
  constructor
  · show (g (y s).1 (y s).2).1 = _
    rw [ha]
    exact hnext.1
  · show (g (y s).1 (y s).2).2.store = _
    rw [ha]
    exact hnext.2

variable [FileStore (StateM σ)]

theorem follows_readText (p : Path) :
    Follows (readText p : StateM (Recorded σ) _) (readText p : StateM σ _) := by
  refine Follows.bind (fun _ => ⟨rfl, rfl⟩) fun r => ?_
  cases r with
  | error x => exact follows_pure _
  | ok content =>
    dsimp only
    cases String.fromUTF8? content with
    | none => exact follows_pure _
    | some text => exact follows_pure _

theorem follows_readSchema (p : Path) :
    Follows (readSchema p : StateM (Recorded σ) _) (readSchema p : StateM σ _) := by
  refine (follows_readText p).bind fun r => ?_
  cases r <;> exact follows_pure _

theorem follows_load (file? : Option Path) (env : Environment) :
    Follows (Config.load file? env : StateM (Recorded σ) _)
      (Config.load file? env : StateM σ _) := by
  have withFile : Follows (env.withFile : StateM (Recorded σ) _) (env.withFile : StateM σ _) := by
    refine (follows_readText variablesFile).bind fun r => ?_
    cases r <;> exact follows_pure _
  have readFile (p : Path) : Follows (Config.readFile p : StateM (Recorded σ) _)
      (Config.readFile p : StateM σ _) := by
    refine (follows_readText p).bind fun r => ?_
    cases r <;> exact follows_pure _
  have readBase : Follows (Config.readBase file? : StateM (Recorded σ) _)
      (Config.readBase file? : StateM σ _) := by
    cases file? with
    | some p => exact readFile p
    | none =>
      refine Follows.bind (fun _ => ⟨rfl, rfl⟩) fun b => ?_
      cases b
      · exact follows_pure _
      · exact readFile _
  exact withFile.bind fun env => readBase.bind fun r => follows_pure _

theorem follows_writeFiles (root : Path) (as : List Artifact) :
    Follows (writeFiles root as : StateM (Recorded σ) _) (writeFiles root as : StateM σ _) := by
  induction as with
  | nil => exact follows_pure _
  | cons a rest ih =>
    refine Follows.bind (fun _ => ⟨rfl, rfl⟩) fun r => ?_
    cases r with
    | error x => exact follows_pure _
    | ok u =>
      refine ih.bind fun r => ?_
      cases r <;> exact follows_pure _

theorem follows_generateFile (g : Generator) (p : Path) :
    Follows (g.generateFile p : StateM (Recorded σ) _) (g.generateFile p : StateM σ _) := by
  have generate (text : String) : Follows (g.generate text : StateM (Recorded σ) _)
      (g.generate text : StateM σ _) := by
    refine Follows.bind ?_ fun run => follows_pure _
    unfold Generator.run
    dsimp only
    cases (planRun g.keys text).result with
    | error x => exact follows_pure _
    | ok q =>
      refine (follows_writeFiles g.projectRoot q.artifacts).bind fun r => ?_
      cases r <;> exact follows_pure _
  refine (follows_readSchema p).bind fun r => ?_
  cases r with
  | error x => exact follows_pure _
  | ok text => exact generate text

/-- **The record changes nothing about what an invocation does.** -/
theorem follows_run (i : Invocation) (env : Environment) :
    Follows (i.run env : StateM (Recorded σ) _) (i.run env : StateM σ _) := by
  cases i with
  | version => exact follows_pure _
  | command config? c =>
    refine (follows_load config? env).bind fun r => ?_
    cases r with
    | error fault => exact follows_pure _
    | ok config =>
      cases c with
      | generate schema root? => exact (follows_generateFile _ schema).bind fun r => follows_pure _
      | validate schema => exact (follows_readSchema schema).bind fun r => follows_pure _
      | listArtifacts schema => exact (follows_readSchema schema).bind fun r => follows_pure _
      | serve host? port? root? => exact follows_pure _

theorem ReadsOnly.recorded (hσ : ReadsOnly σ) : ReadsOnly (Recorded σ) where
  read := fun p s => congrArg (fun t => { s with store := t }) (hσ.read p s.store)
  contains := fun p s => congrArg (fun t => { s with store := t }) (hσ.contains p s.store)

variable (root : Path) (s : Recorded σ)

theorem paths_writeIn (p : Path) (c : ByteArray) : (writeIn p c s).2.paths = s.paths ++ [p] := rfl

/-- **The paths of a batch are recorded one after the other**, up to the first failure. -/
theorem paths_writeFilesIn (as : List Artifact) :
    ∃ n, (writeFilesIn root as s).2.paths =
        s.paths ++ (as.take n).map (fun a => root.join a.path) ∧
      (as ≠ [] → 0 < n) ∧
      ∀ files, (writeFilesIn root as s).1 = .ok files →
        files = as.map (·.path) ∧ as.length ≤ n := by
  induction as generalizing s with
  | nil =>
    refine ⟨0, by simp [writeFilesIn_nil], by simp, fun files h => ?_⟩
    obtain rfl := Except.ok.inj h
    simp
  | cons a rest ih =>
    have hpath := paths_writeIn s (root.join a.path) a.content.toUTF8
    rcases hw : writeIn (root.join a.path) a.content.toUTF8 s with ⟨r, s'⟩
    rw [hw] at hpath
    cases r with
    | error x =>
      rw [writeFilesIn_cons_of_error hw]
      exact ⟨1, by simpa using hpath, by simp, fun files h => by simp at h⟩
    | ok u =>
      obtain ⟨n, hpaths, -, hfiles⟩ := ih s'
      rw [writeFilesIn_cons_of_ok hw]
      refine ⟨n + 1, ?_, by simp, fun files h => ?_⟩
      · rw [hpaths, hpath]
        simp
      · cases hrest : (writeFilesIn root rest s').1 with
        | error x =>
          rw [hrest] at h
          simp [Except.map] at h
        | ok more =>
          rw [hrest] at h
          obtain rfl := Except.ok.inj h
          obtain ⟨rfl, hn⟩ := hfiles more hrest
          exact ⟨rfl, by simpa using hn⟩

end

/-! ## The outcomes of the commands -/

/-- What comes of an invocation in a state, and the state after it. -/
def Invocation.runIn {σ : Type} [FileStore (StateM σ)] (i : Invocation) (env : Environment)
    (s : σ) : Outcome × σ :=
  (i.run env : StateM σ Outcome) s

/-- The configuration that a state has for an environment. -/
def Config.loadIn {σ : Type} [FileStore (StateM σ)] (config? : Option Path) (env : Environment)
    (s : σ) : Except ConfigFault Config :=
  ((Config.load config? env : StateM σ _) s).1

/-- The text of a file in a state. -/
def textIn {σ : Type} [FileStore (StateM σ)] (p : Path) (s : σ) : Except FileError String :=
  ((readText p : StateM σ _) s).1

section

variable {σ : Type} [FileStore (StateM σ)] (hσ : ReadsOnly σ) {config? : Option Path}
  {env : Environment} {config : Config} {schema : Path} {text : String} {s : σ}

include hσ

theorem runIn_command (hconfig : Config.loadIn config? env s = .ok config) (c : Command) :
    (Invocation.command config? c).runIn env s = (c.run config : StateM σ Outcome) s := by
  have hload : (Config.load config? env : StateM σ _) s = (.ok config, s) :=
    Prod.ext hconfig (hσ.load config? env s)
  unfold Invocation.runIn Invocation.run
  simp only [bind, StateT.bind, hload]

theorem readSchema_eq (hschema : textIn schema s = .ok text) :
    (readSchema schema : StateM σ _) s = (.ok text, s) := by
  have hread : (readText schema : StateM σ _) s = (.ok text, s) :=
    Prod.ext hschema (hσ.readText schema s)
  unfold readSchema
  simp only [bind, StateT.bind, hread]
  rfl

variable (hconfig : Config.loadIn config? env s = .ok config)
  (hschema : textIn schema s = .ok text)

include hconfig hschema

theorem runIn_validate :
    (Invocation.command config? (.validate schema)).runIn env s =
      (.ofResult [s!"🔍 Validating {schema.text}..."] (fun r => r.1.lines r.2)
        (prepare config.keys text), s) := by
  rw [runIn_command hσ hconfig, Command.run]
  simp only [bind, StateT.bind, readSchema_eq hσ hschema]
  rfl

theorem runIn_listArtifacts :
    (Invocation.command config? (.listArtifacts schema)).runIn env s =
      (.ofResult [] (fun p => p.paths.map (·.text)) (plan config.keys text), s) := by
  rw [runIn_command hσ hconfig, Command.run]
  simp only [bind, StateT.bind, readSchema_eq hσ hschema]
  rfl

theorem runIn_generate (root? : Option Path) :
    (Invocation.command config? (.generate schema root?)).runIn env s =
      let root := root?.getD config.projectRoot
      let out := Generator.generateIn ⟨root, config.keys⟩ text s
      (.ofResult [s!"🔧 Generating slice from {schema.text}..."] (·.lines root) out.1, out.2) := by
  rw [runIn_command hσ hconfig, Command.run]
  simp only [bind, StateT.bind, Generator.generateFile, readSchema_eq hσ hschema]
  rfl

theorem fault?_runIn_generate (root? : Option Path) {report : Report}
    (h : (Generator.generateIn ⟨root?.getD config.projectRoot, config.keys⟩ text s).1 =
      .ok report) :
    ((Invocation.command config? (.generate schema root?)).runIn env s).1.fault? = none := by
  rw [runIn_generate hσ hconfig hschema]
  dsimp only
  rw [h]
  rfl

end

/-! ## The lines of warnings -/

/-- What the lines of warnings begin with. -/
def warningMark : String := "  ⚠ "

/-- The lines of an outcome that begin like those of warnings. -/
def Outcome.warningLines (o : Outcome) : List String :=
  o.lines.filter fun l => warningMark.toList.isPrefixOf l.toList

theorem warningMark_of_warning (w : Warning) : warningMark.toList <+: (warningLine w).toList := by
  have hline : warningLine w = warningMark ++ w.message := rfl
  rw [hline, String.toList_append]
  exact List.prefix_append _ _

/-- A line that begins with something else is not the line of a warning. -/
theorem not_warningMark_of_start {line : String} (start : String)
    (hline : start.toList <+: line.toList) (h : ¬warningMark.toList <+: start.toList)
    (h' : ¬start.toList <+: warningMark.toList) :
    ¬warningMark.toList <+: line.toList := by
  intro hmark
  rcases List.prefix_or_prefix_of_prefix hmark hline with hp | hp
  · exact h hp
  · exact h' hp

theorem Outcome.warningLines_eq {o : Outcome} {ws : List Warning} (before after : List String)
    (h : o.lines = before ++ ws.map warningLine ++ after)
    (hbefore : ∀ l ∈ before, ¬warningMark.toList <+: l.toList)
    (hafter : ∀ l ∈ after, ¬warningMark.toList <+: l.toList) :
    o.warningLines = ws.map warningLine := by
  have hwarnings : ∀ l ∈ ws.map warningLine, warningMark.toList.isPrefixOf l.toList = true := by
    intro l hl
    obtain ⟨w, -, rfl⟩ := List.mem_map.mp hl
    exact List.isPrefixOf_iff_prefix.mpr (warningMark_of_warning w)
  have hothers {ls : List String} (hls : ∀ l ∈ ls, ¬warningMark.toList <+: l.toList) :
      ls.filter (fun l => warningMark.toList.isPrefixOf l.toList) = [] :=
    List.filter_eq_nil_iff.mpr fun l hl hmark =>
      hls l hl (List.isPrefixOf_iff_prefix.mp hmark)
  rw [warningLines, h, List.filter_append, List.filter_append, List.filter_eq_self.mpr hwarnings,
    hothers hbefore, hothers hafter, List.append_nil, List.nil_append]

/-- The warnings in the output of a validation. -/
theorem warningLines_validated (path : String) (e : Entity) (ws : List Warning) :
    Outcome.warningLines
        (.ofResult [s!"🔍 Validating {path}..."] (fun r : Entity × List Warning => r.1.lines r.2)
          (.ok (e, ws))) = ws.map warningLine := by
  refine Outcome.warningLines_eq [s!"🔍 Validating {path}...",
    s!"  ✓ Entity: {e.naming.plural} / {e.naming.singular}",
    s!"  ✓ Folder: src/app/{e.root.name}/{e.naming.folder}",
    s!"  ✓ Page: {e.pageAddress}",
    s!"  ✓ Fields: {natText e.fields.length}"] ["✨ Schema is valid"] ?_ ?_ ?_
  · simp [Outcome.ofResult, Entity.lines]
  · simp only [List.forall_mem_cons]
    refine ⟨not_warningMark_of_start "🔍" ?_ (by decide) (by decide),
      not_warningMark_of_start "  ✓ " ?_ (by decide) (by decide),
      not_warningMark_of_start "  ✓ " ?_ (by decide) (by decide),
      not_warningMark_of_start "  ✓ " ?_ (by decide) (by decide),
      not_warningMark_of_start "  ✓ " ?_ (by decide) (by decide), by simp⟩
    all_goals simp [toString]
  · simp only [List.forall_mem_cons]
    exact ⟨not_warningMark_of_start "✨" (by simp) (by decide) (by decide), by simp⟩

/-- The warnings in the output of a generation. -/
theorem warningLines_generated (path : String) (root : Path) (r : Report) :
    Outcome.warningLines
        (.ofResult [s!"🔧 Generating slice from {path}..."] (·.lines root) (.ok r)) =
      r.warnings.map warningLine := by
  refine Outcome.warningLines_eq [s!"🔧 Generating slice from {path}..."]
    [s!"  ✓ Wrote {natText r.files.length} files to {(r.directory root).text}",
      "✨ Generation complete!"] ?_ ?_ ?_
  · simp [Outcome.ofResult, Report.lines]
  · simp only [List.forall_mem_cons]
    exact ⟨not_warningMark_of_start "🔧" (by simp [toString]) (by decide) (by decide),
      by simp⟩
  · simp only [List.forall_mem_cons]
    exact ⟨not_warningMark_of_start "  ✓ " (by simp [toString]) (by decide) (by decide),
      not_warningMark_of_start "✨" (by simp) (by decide) (by decide), by simp⟩

/-! ## Agreement -/

/--
Whether what comes of validating a schema, of listing its files and of generating its slice below
`root` agrees, when all three start in the state `s`.
-/
structure Agree {σ : Type} (keys : NamingKeys) (text : String) (root : Path) (s : σ)
    (validated listed : Outcome × σ) (generated : Outcome × Recorded σ) : Prop where
  validated_state : validated.2 = s
  listed_state : listed.2 = s
  validated_ok : validated.1.fault? = none ↔ ∃ r, prepare keys text = .ok r
  listed_ok : listed.1.fault? = none ↔ ∃ r, prepare keys text = .ok r
  /-- A generation fails before it writes anything just as the validation fails. -/
  fault_validated : ∀ x,
    (generated.1.fault? = some x ∧ generated.2.paths = []) ↔ validated.1.fault? = some x
  fault_listed : ∀ x,
    (generated.1.fault? = some x ∧ generated.2.paths = []) ↔ listed.1.fault? = some x
  unwritten : generated.2.paths = [] → generated.2.store = s
  /-- The paths in the list are those that a generation writes to. -/
  paths : generated.1.fault? = none → ∃ paths : List Path,
    (∀ p ∈ paths, p.isPlain) ∧ listed.1.lines = paths.map (·.text) ∧
      generated.2.paths = paths.map (root.join ·)
  warnings : generated.1.fault? = none → ∃ e ws, prepare keys text = .ok (e, ws) ∧
    validated.1.warningLines = ws.map warningLine ∧ generated.1.warningLines = ws.map warningLine

theorem artifacts_ne_nil (e : Entity) : Slice.artifacts e ≠ [] := by
  have hfile := Slice.mem_files_of_singleFile? (e := e) (p := .querySlice) rfl
  exact List.ne_nil_of_mem (List.mem_map_of_mem hfile)

/-- The commands agree once they have the text of a schema. -/
theorem agree_of_text {σ : Type} [FileStore (StateM σ)] (keys : NamingKeys) (text : String)
    (root : Path) (path : String) (s : σ) :
    Agree keys text root s
      (.ofResult [s!"🔍 Validating {path}..."] (fun r => r.1.lines r.2) (prepare keys text), s)
      (.ofResult [] (fun p => p.paths.map (·.text)) (plan keys text), s)
      (.ofResult [s!"🔧 Generating slice from {path}..."] (·.lines root)
        (Generator.generateIn ⟨root, keys⟩ text (⟨s, []⟩ : Recorded σ)).1,
       (Generator.generateIn ⟨root, keys⟩ text (⟨s, []⟩ : Recorded σ)).2) := by
  cases hprep : prepare keys text with
  | error x =>
    have hplan := plan_of_prepare_error hprep
    rw [hplan, Generator.generateIn_of_error ⟨root, keys⟩ text _ hplan]
    constructor <;> simp [Outcome.ofResult, hprep]
  | ok r =>
    obtain ⟨e, ws⟩ := r
    have hplan := plan_of_prepare hprep
    rw [hplan, Generator.generateIn_of_plan ⟨root, keys⟩ text _ hplan]
    obtain ⟨n, hpaths, hpos, hok⟩ := paths_writeFilesIn root ⟨s, []⟩ (Slice.artifacts e)
    rcases hw : writeFilesIn root (Slice.artifacts e) (⟨s, []⟩ : Recorded σ) with ⟨r, after⟩
    rw [hw] at hpaths hok
    have hwritten : after.paths ≠ [] := by
      have hn := hpos (artifacts_ne_nil e)
      rw [hpaths]
      simpa [artifacts_ne_nil e] using hn.ne'
    refine ⟨rfl, rfl, by simp [Outcome.ofResult, hprep], by simp [Outcome.ofResult, hprep],
      by simp [Outcome.ofResult, hwritten], by simp [Outcome.ofResult, hwritten],
      fun h => absurd h hwritten, ?_, ?_⟩
    · intro hfault
      cases r with
      | error x => simp [Outcome.ofResult, Except.map] at hfault
      | ok files =>
        obtain ⟨rfl, hn⟩ := hok files rfl
        refine ⟨_, ?_, rfl, ?_⟩
        · intro p hp
          obtain ⟨a, ha, rfl⟩ := List.mem_map.mp hp
          exact (Slice.fits_of_mem_artifacts (accepted_of_plan hplan) ha).isPlain
        · rw [hpaths, List.take_of_length_le hn]
          simp [Plan.paths]
    · intro hfault
      cases r with
      | error x => simp [Outcome.ofResult, Except.map] at hfault
      | ok files =>
        exact ⟨e, ws, hprep, warningLines_validated _ e ws, warningLines_generated _ root _⟩

/--
**The commands agree** about every schema that can be read, with every configuration that can be
loaded. To validate it and to list its files changes nothing, and succeeds if the schema can be
prepared. A generation fails before it writes anything exactly when they fail, for the same reason.
When it succeeds, it has written to the listed paths, one after the other, and has given the
warnings of the validation. The record in which the paths are seen changes nothing about it.
-/
theorem commands_agree {σ : Type} [FileStore (StateM σ)] {config? : Option Path}
    {env : Environment} {config : Config} {schema : Path} {text : String} {s : σ}
    (hσ : ReadsOnly σ) (hconfig : Config.loadIn config? env s = .ok config)
    (hschema : textIn schema s = .ok text) (root? : Option Path) :
    Follows ((Invocation.command config? (.generate schema root?)).run env)
        ((Invocation.command config? (.generate schema root?)).run env : StateM σ Outcome) ∧
      Agree config.keys text (root?.getD config.projectRoot) s
        ((Invocation.command config? (.validate schema)).runIn env s)
        ((Invocation.command config? (.listArtifacts schema)).runIn env s)
        ((Invocation.command config? (.generate schema root?)).runIn env
          (⟨s, []⟩ : Recorded σ)) := by
  refine ⟨follows_run _ env, ?_⟩
  -- What can be read from the state can be read from it with a record.
  have hconfig' : Config.loadIn config? env (⟨s, []⟩ : Recorded σ) = .ok config :=
    (follows_load config? env ⟨s, []⟩).1.trans hconfig
  have hschema' : textIn schema (⟨s, []⟩ : Recorded σ) = .ok text :=
    (follows_readText schema ⟨s, []⟩).1.trans hschema
  rw [runIn_validate hσ hconfig hschema, runIn_listArtifacts hσ hconfig hschema,
    runIn_generate hσ.recorded hconfig' hschema']
  exact agree_of_text config.keys text (root?.getD config.projectRoot) schema.text s

/-- An empty project with a schema besides it. -/
def projectWithSchema : FileTree :=
  emptyProject.put ["posts.json"] (.file postsSchema.toUTF8)

theorem find?_projectWithSchema (q : List String) :
    projectWithSchema.find? q =
      if q = ["posts.json"] then some (.file postsSchema.toUTF8) else emptyProject.find? q :=
  FileTree.find?_put _ (by simp) _ q

theorem wellFormed_projectWithSchema : projectWithSchema.WellFormed where
  current := rfl
  parent := by
    intro place n e h
    rw [find?_projectWithSchema, find?_emptyProject] at h ⊢
    cases place with
    | nil => simp
    | cons m place => simp at h

theorem isEmptyDirectory_projectWithSchema :
    projectWithSchema.IsEmptyDirectory ⟨"project"⟩ := by
  have hplace : projectWithSchema.placeOf ⟨"project"⟩ = ["project"] := by
    have hc : (⟨"project"⟩ : Path).components = [.name "project"] := by decide
    rw [FileTree.placeOf, hc]
    rfl
  refine ⟨by decide, ?_, ?_, ?_⟩
  · have hc : (⟨"project"⟩ : Path).components = [.name "project"] := by decide
    have hcurrent : projectWithSchema.find? projectWithSchema.current = some .directory := rfl
    rw [hplace, hc]
    simp only [FileTree.locate, hcurrent]
    rfl
  · rw [hplace, find?_projectWithSchema, find?_emptyProject]
    simp
  · intro n rest
    rw [hplace, find?_projectWithSchema, find?_emptyProject]
    simp

/-- What a name leads to in the current directory. -/
theorem read_projectWithSchema {p : Path} {n : String} (hn : p.components = [.name n])
    (hzero : FileTree.hasZero p.text = false) (hne : p.text ≠ "") :
    projectWithSchema.read p = match projectWithSchema.find? [n] with
      | none => .error .notFound
      | some .directory => .error .isDirectory
      | some (.file content) =>
        if p.asksForDirectory then .error .notDirectory else .ok content := by
  have hplace : projectWithSchema.locatePath p = .ok [n] := by
    have hlimits : projectWithSchema.limits = .unlimited := rfl
    have hroot : projectWithSchema.find? projectWithSchema.current = some .directory := rfl
    have htext : FileTree.checkText projectWithSchema.limits p.text = .ok () := by
      simp [FileTree.checkText, hzero, hlimits, FileLimits.unlimited, FileLimits.isExceeded]
    have hlocate : projectWithSchema.locate projectWithSchema.current [.name n] = .ok [n] := by
      simp only [FileTree.locate, hroot]
      rfl
    rw [FileTree.locatePath, htext, hn, hlocate]
    exact if_neg hne
  rw [FileTree.read, hplace]
  rfl

/-- A directory without files for it has the default configuration. -/
theorem loadIn_default {t : FileTree} (hvariables : t.read variablesFile = .error .notFound)
    (hfile : t.read defaultConfigFile = .error .notFound) : Config.loadIn none [] t = .ok {} := by
  have hread : (FileStore.read variablesFile : StateM FileTree _) t = (.error .notFound, t) :=
    Prod.ext hvariables rfl
  have hcontains : (FileStore.contains defaultConfigFile : StateM FileTree _) t = (false, t) := by
    refine Prod.ext ?_ rfl
    show t.exists? defaultConfigFile = false
    rw [FileTree.exists?, hfile]
  have hwith : (Environment.withFile [] : StateM FileTree _) t = ([], t) := by
    unfold Environment.withFile readText
    simp only [bind, StateT.bind, hread]
    rfl
  have hbase : (Config.readBase none : StateM FileTree _) t = (.ok {}, t) := by
    unfold Config.readBase
    simp only [bind, StateT.bind, hcontains]
    rfl
  unfold Config.loadIn Config.load
  simp only [bind, StateT.bind, hwith, hbase]
  rfl

theorem textIn_of_read {t : FileTree} {p : Path} {text : String}
    (h : t.read p = .ok text.toUTF8) : textIn p t = .ok text := by
  have hutf8 : String.fromUTF8? text.toUTF8 = some text := dif_pos text.isValidUTF8
  have hread : (FileStore.read p : StateM FileTree _) t = (.ok text.toUTF8, t) := Prod.ext h rfl
  unfold textIn readText
  simp only [bind, StateT.bind, hread, hutf8]
  rfl

theorem isOk_generateIn_projectWithSchema :
    ∃ report, (Generator.generateIn ⟨⟨"project"⟩, {}⟩ postsSchema
      (⟨projectWithSchema, []⟩ : Recorded FileTree)).1 = .ok report := by
  obtain ⟨p, hp, -⟩ := plan_postsSchema
  have hlimits : projectWithSchema.limits = .unlimited := rfl
  have htree := writeFilesIn_of_plan hp wellFormed_projectWithSchema hlimits
    isEmptyDirectory_projectWithSchema
  have hok : (writeFilesIn ⟨"project"⟩ p.artifacts
      (⟨projectWithSchema, []⟩ : Recorded FileTree)).1 = .ok p.paths :=
    (follows_writeFiles ⟨"project"⟩ p.artifacts ⟨projectWithSchema, []⟩).1.trans htree
  rw [Generator.generateIn_of_plan ⟨⟨"project"⟩, {}⟩ postsSchema _ hp]
  exact ⟨p.report p.paths, congrArg (Except.map p.report) hok⟩

theorem commands_agree_posts :
    ReadsOnly FileTree ∧ Config.loadIn none [] projectWithSchema = .ok {} ∧
      textIn ⟨"posts.json"⟩ projectWithSchema = .ok postsSchema ∧
      ((Invocation.command none (.generate ⟨"posts.json"⟩ (some ⟨"project"⟩))).runIn []
        (⟨projectWithSchema, []⟩ : Recorded FileTree)).1.fault? = none ∧
      Agree {} postsSchema ⟨"project"⟩ projectWithSchema
        ((Invocation.command none (.validate ⟨"posts.json"⟩)).runIn [] projectWithSchema)
        ((Invocation.command none (.listArtifacts ⟨"posts.json"⟩)).runIn [] projectWithSchema)
        ((Invocation.command none (.generate ⟨"posts.json"⟩ (some ⟨"project"⟩))).runIn []
          (⟨projectWithSchema, []⟩ : Recorded FileTree)) := by
  have hmissing {p : Path} {n : String} (hn : p.components = [.name n])
      (hzero : FileTree.hasZero p.text = false) (hne : p.text ≠ "")
      (hother : n ≠ "posts.json" ∧ n ≠ "project") :
      projectWithSchema.read p = .error .notFound := by
    rw [read_projectWithSchema hn hzero hne, find?_projectWithSchema, find?_emptyProject]
    simp [hother.1, hother.2]
  have hconfig : Config.loadIn none [] projectWithSchema = .ok {} := by
    apply loadIn_default
    · exact hmissing (n := ".env") (by decide) (by decide) (by decide) (by decide)
    · exact hmissing (n := "template-generator.yaml") (by decide) (by decide) (by decide)
        (by decide)
  have hschema : textIn ⟨"posts.json"⟩ projectWithSchema = .ok postsSchema := by
    apply textIn_of_read
    rw [read_projectWithSchema (n := "posts.json") (by decide) (by decide) (by decide),
      find?_projectWithSchema]
    simp only [↓reduceIte]
    exact if_neg (by decide)
  have hagree := (commands_agree readsOnly_fileTree hconfig hschema (some ⟨"project"⟩)).2
  refine ⟨readsOnly_fileTree, hconfig, hschema, ?_, hagree⟩
  obtain ⟨report, hreport⟩ := isOk_generateIn_projectWithSchema
  have hconfig' : Config.loadIn none [] (⟨projectWithSchema, []⟩ : Recorded FileTree) = .ok {} :=
    (follows_load none [] ⟨projectWithSchema, []⟩).1.trans hconfig
  have hschema' : textIn ⟨"posts.json"⟩ (⟨projectWithSchema, []⟩ : Recorded FileTree) =
      .ok postsSchema :=
    (follows_readText ⟨"posts.json"⟩ ⟨projectWithSchema, []⟩).1.trans hschema
  exact fault?_runIn_generate readsOnly_fileTree.recorded hconfig' hschema' (some ⟨"project"⟩)
    hreport

end EntitySlice
