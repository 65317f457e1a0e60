import EntitySlice.Batch
import EntitySlice.FileStore

/-!
# Generations

A run takes the text of a schema, works out all files of the slice, checks them and then writes
them one after the other. It passes through stages and ends as completed or failed; nothing is
written before all files are known to be right. `prepare` and `plan` are the first steps of a run
on their own.
-/

namespace EntitySlice

/-- Why a run fails. -/
inductive Failure
  | schema (fault : SchemaFault)
  | naming (fault : NamingFault)
  | batch (fault : BatchFault)
  /-- A file could not be written. -/
  | write (path : Path) (cause : FileError)

/-- The failure in words. -/
def Failure.message : Failure → String
  | .schema fault => fault.message
  | .naming fault => fault.message
  | .batch fault => fault.message
  | .write path cause => s!"failed to write {path.text}: {cause.message}"

/-! ## Stages -/

/-- How far a run has come. -/
inductive Stage
  | received | parsed | namingResolved | classified | rootResolved
  | rendering (part : String)
  | persisted | completed | failed
  deriving DecidableEq, Repr

/-- The stage in words. -/
def Stage.name : Stage → String
  | .received => "Received"
  | .parsed => "Parsed"
  | .namingResolved => "NamingResolved"
  | .classified => "Classified"
  | .rootResolved => "RootResolved"
  | .rendering part => s!"Rendering({part})"
  | .persisted => "Persisted"
  | .completed => "Completed"
  | .failed => "Failed"

/-- The stages that a run went through, and what came of it. -/
structure Run (α : Type) where
  stages : List Stage
  result : Except Failure α

namespace Run

/-- A run that goes through stages. -/
def reach (stages : List Stage) : Run Unit := ⟨stages, .ok ()⟩

/-- A step that ends the run if it fails, and leads to a stage otherwise. -/
def step {α : Type} (result : Except Failure α) (next : List Stage) : Run α :=
  match result with
  | .ok _ => ⟨next, result⟩
  | .error _ => ⟨[.failed], result⟩

/-- A run followed by another one if it does not fail. -/
def andThen {α β : Type} (r : Run α) (next : α → Run β) : Run β :=
  match r.result with
  | .ok a => ⟨r.stages ++ (next a).stages, (next a).result⟩
  | .error e => ⟨r.stages, .error e⟩

instance : Monad Run where
  pure a := ⟨[], .ok a⟩
  bind := andThen

end Run

/-! ## Planning -/

/-- What a run would write. -/
structure Plan where
  entity : Entity
  artifacts : List Artifact
  warnings : List Warning

/-- The places of the files, in the order in which they are written. -/
def Plan.paths (p : Plan) : List Path := p.artifacts.map (·.path)

/-- What is reported about a run that has completed. -/
structure Report where
  folder : String
  root : SliceRoot
  files : List Path
  warnings : List Warning
  deriving DecidableEq, Repr

/-- The entity that a schema and its resolved names stand for. -/
def Schema.entity (s : Schema) (naming : Naming) : Entity :=
  ⟨naming, Field.ofSpecs s.fields, s.document⟩

/-- The steps of a run up to the entity. -/
def prepareRun (keys : NamingKeys) (text : String) : Run (Entity × List Warning) := do
  Run.reach [.received]
  let schema ← Run.step ((Schema.parse text).mapError .schema) [.parsed]
  let (naming, warnings) ←
    Run.step ((Naming.resolve keys schema.naming).mapError .naming) [.namingResolved]
  Run.reach [.classified, .rootResolved]
  return (schema.entity naming, warnings ++ fieldWarnings schema.fields)

/-- The steps of a run that render parts of the slice, one after the other. -/
def renderRun (e : Entity) : List Slice.Part → Run (List Artifact)
  | [] => return []
  | p :: rest => do
    Run.reach [.rendering p.name]
    let artifacts ← Run.step ((p.artifacts e).mapError .batch) []
    return artifacts ++ (← renderRun e rest)

/-- The steps of a run up to the checked files. -/
def planRun (keys : NamingKeys) (text : String) : Run Plan := do
  let (entity, warnings) ← prepareRun keys text
  let artifacts ← renderRun entity Slice.Part.all
  Run.step ((checkBatch entity.sliceDir artifacts).mapError .batch) []
  return ⟨entity, artifacts, warnings⟩

/-- The entity that a schema describes, with the warnings about it. -/
def prepare (keys : NamingKeys) (text : String) : Except Failure (Entity × List Warning) :=
  (prepareRun keys text).result

/-- What a run on a schema would write. -/
def plan (keys : NamingKeys) (text : String) : Except Failure Plan :=
  (planRun keys text).result

/-! ## Writing -/

section Store

variable {m : Type → Type} [Monad m] [FileStore m]

/--
Write files below `root`, one after the other; the first failure ends the writing. The result is
the places of the files.
-/
def writeFiles (root : Path) : List Artifact → m (Except Failure (List Path))
  | [] => return .ok []
  | a :: rest => do
    match ← FileStore.write (root.join a.path) a.content.toUTF8 with
    | .error cause => return .error (.write (root.join a.path) cause)
    | .ok () =>
      match ← writeFiles root rest with
      | .error e => return .error e
      | .ok paths => return .ok (a.path :: paths)

/-- A project directory, and the keys of the schemas for it. -/
structure Generator where
  projectRoot : Path
  keys : NamingKeys

namespace Generator

/-- All steps of a run on a schema. -/
def run (g : Generator) (text : String) : m (Run Report) := do
  let planned := planRun g.keys text
  match planned.result with
  | .error e => return ⟨planned.stages, .error e⟩
  | .ok p =>
    match ← writeFiles g.projectRoot p.artifacts with
    | .error e => return ⟨planned.stages ++ [.failed], .error e⟩
    | .ok files =>
      return ⟨planned.stages ++ [.persisted, .completed],
        .ok ⟨p.entity.naming.folder, p.entity.root, files, p.warnings⟩⟩

/-- Write the slice that a schema describes. -/
def generate (g : Generator) (text : String) : m (Except Failure Report) := do
  return (← g.run text).result

end Generator

/-- The text of a schema in a file. -/
def readSchema (path : Path) : m (Except Failure String) := do
  match ← readText path with
  | .ok text => return .ok text
  | .error cause => return .error (.schema (.unreadable path cause))

/-- Write the slice that the schema in a file describes. -/
def Generator.generateFile (g : Generator) (path : Path) : m (Except Failure Report) := do
  match ← readSchema path with
  | .ok text => g.generate text
  | .error e => return .error e

end Store

end EntitySlice
