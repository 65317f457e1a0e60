import EntitySlice.FileTree

/-!
# Where files are kept

The operations on files that a generation needs, for any way of keeping them: a tree of files held
in a state, or the disk of the machine.
-/

namespace EntitySlice

/-- Reading and writing files inside the effects of `m`. -/
class FileStore (m : Type → Type) where
  /-- The content of a file. -/
  read : Path → m (Except FileError ByteArray)
  /-- Write a file, and make the directories it is in. -/
  write : Path → ByteArray → m (Except FileError Unit)
  /-- Whether there is a file or directory at a path. -/
  contains : Path → m Bool

/-- Computations that change a tree of files. -/
abbrev InTree := StateM FileTree

instance : FileStore InTree where
  read p := do return (← get).read p
  write p content := fun t => ((t.write p content).2, (t.write p content).1)
  contains p := do return (← get).exists? p

/-- The content of a file as a text. -/
def readText {m : Type → Type} [Monad m] [FileStore m] (p : Path) :
    m (Except FileError String) := do
  match ← FileStore.read p with
  | .error e => return .error e
  | .ok content =>
    match String.fromUTF8? content with
    | some s => return .ok s
    | none => return .error .notText

end EntitySlice
