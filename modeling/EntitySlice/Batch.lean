import EntitySlice.Slice.Part
import EntitySlice.Text.Blank

/-!
# Batches of files

The files that one run writes. `checkBatch` makes sure before anything is written that all of
them lie in the directory of the slice, that no two of them have the same place and that none is
empty.
-/

namespace EntitySlice

open EntitySlice.Text

/-- A file to be written. -/
structure Artifact where
  /-- The name of the part of the slice that the file belongs to. -/
  key : String
  path : Path
  content : String
  deriving DecidableEq, Repr

/-- A file of a slice as it is written. -/
def Slice.SliceFile.artifact (f : Slice.SliceFile) : Artifact :=
  ⟨f.part.name, f.path, f.content.text⟩

/-- What is wrong with a file. -/
inductive BatchReason
  | notPlain
  | outside (dir : Path)
  | repeated
  | blank
  deriving DecidableEq, Repr

/-- The reason in words, for a file at a path. -/
def BatchReason.message (path : Path) : BatchReason → String
  | .notPlain => s!"path {path.text} is not a plain relative path"
  | .outside dir => s!"path {path.text} escapes {dir.text}"
  | .repeated => s!"path {path.text} rendered twice"
  | .blank => s!"{path.text} rendered empty"

/-- Why the files of a slice cannot be written. -/
inductive BatchFault
  /-- A part that cannot be rendered. -/
  | notRendered (part : Slice.Part)
  /-- A file that must not be written. -/
  | refused (artifact : Artifact) (reason : BatchReason)
  deriving DecidableEq, Repr

namespace BatchFault

/-- The name of the part that the fault is in. -/
def key : BatchFault → String
  | notRendered part => part.name
  | refused artifact _ => artifact.key

/-- The fault in words, without its place. -/
def detail : BatchFault → String
  | notRendered _ => "an error occurred when formatting an argument"
  | refused artifact reason => reason.message artifact.path

/-- The fault in words. -/
def message (f : BatchFault) : String :=
  s!"render error in '{f.key}': {f.detail}"

end BatchFault

/-- The files of a part as they are written. -/
def Slice.Part.artifacts (e : Entity) (p : Slice.Part) : Except BatchFault (List Artifact) :=
  match p.files? e with
  | some files => .ok (files.map SliceFile.artifact)
  | none => .error (.notRendered p)

/-- What is wrong with a file that belongs into `dir`; `seen` is where the files before it lie. -/
def Artifact.reason? (dir : Path) (seen : List (List PathComponent)) (a : Artifact) :
    Option BatchReason :=
  if !a.path.isPlain then some .notPlain
  else if !a.path.isBelow dir then some (.outside dir)
  else if seen.contains a.path.components then some .repeated
  else if isBlankText a.content then some .blank
  else none

/-- Whether files can be written to `dir` after others; the first fault ends the check. -/
def checkAfter (dir : Path) (seen : List (List PathComponent)) :
    List Artifact → Except BatchFault Unit
  | [] => .ok ()
  | a :: rest =>
    match a.reason? dir seen with
    | some reason => .error (.refused a reason)
    | none => checkAfter dir (a.path.components :: seen) rest

/-- Whether files can be written to `dir`. -/
def checkBatch (dir : Path) (artifacts : List Artifact) : Except BatchFault Unit :=
  checkAfter dir [] artifacts

end EntitySlice
