import EntitySlice.Path

/-!
# Where slices go

A slice goes to one of two roots: generated code that is looked at first, or the dashboard itself.
Every slice has a folder of its own under its root.
-/

namespace EntitySlice

/-- The directory that slices go to. -/
inductive SliceRoot
  | generate
  | dashboard
  deriving DecidableEq, Repr

namespace SliceRoot

/-- The name of the directory. -/
def name : SliceRoot → String
  | generate => "generate"
  | dashboard => "dashboard"

/-- The directory of the application in a project. -/
def appDir : Path := ⟨"src/app"⟩

/-- The directory in a project. -/
def dir (r : SliceRoot) : Path := appDir / r.name

/-- The directory of the slice with a folder name. -/
def sliceDir (r : SliceRoot) (folder : String) : Path := r.dir / folder

/-- The root for the value of the folder flag. -/
def ofFlag (generateFolder : Bool) : SliceRoot :=
  if generateFolder then generate else dashboard

end SliceRoot

end EntitySlice
