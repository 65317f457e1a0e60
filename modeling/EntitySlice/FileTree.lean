import EntitySlice.FileTree.Branch
import EntitySlice.Path

/-!
# A tree of files

Regular files and directories, kept by the list of names that leads to each of them. The
operations fail where a file system would: a file cannot stand where a directory is needed or the
other way round, names and paths have at most as many bytes as the limits of the tree allow, and no
name holds a zero character. `find?` is the view that everything else is stated over: `find?_put`
says what a change does to it.
-/

namespace EntitySlice

/-- Why an operation on files fails. -/
inductive FileError
  | notFound
  | alreadyExists
  | notDirectory
  | isDirectory
  | nameTooLong
  | invalidArgument
  | zeroCharacter
  | notText
  | other (message : String)
  deriving DecidableEq, Repr

/-- The failure in words. -/
def FileError.message : FileError → String
  | .notFound => "No such file or directory (os error 2)"
  | .alreadyExists => "File exists (os error 17)"
  | .notDirectory => "Not a directory (os error 20)"
  | .isDirectory => "Is a directory (os error 21)"
  | .nameTooLong => "File name too long (os error 36)"
  | .invalidArgument => "Invalid argument (os error 22)"
  | .zeroCharacter => "file name contained an unexpected NUL byte"
  | .notText => "stream did not contain valid UTF-8"
  | .other message => message

/-- The greatest numbers of bytes of a name and of a path; without a number there is no limit. -/
structure FileLimits where
  name? : Option Nat := some 255
  path? : Option Nat := some 4095
  deriving DecidableEq, Repr, Inhabited

namespace FileLimits

/-- Names and paths of any length. -/
def unlimited : FileLimits := ⟨none, none⟩

/-- Whether a text has more bytes than a limit allows. -/
def isExceeded (limit? : Option Nat) (s : String) : Bool :=
  limit?.any (· < s.utf8ByteSize)

end FileLimits

/-- Files and directories by the names that lead to them; the root is always there. -/
structure FileTree where
  /-- What the tree holds. -/
  branch : FileBranch
  /-- The directory that relative paths start from. -/
  current : List String := []
  /-- How long names and paths may be. -/
  limits : FileLimits := {}
  deriving Inhabited

namespace FileTree

/-- The tree that has a root and nothing else. -/
def empty : FileTree := { branch := .empty }

/-- What stands at a place. -/
def find? (t : FileTree) (place : List String) : Option FileEntry :=
  if place = [] then some .directory else t.branch.find? place

/-- The tree with `e` at a place other than the root. -/
def put (t : FileTree) (place : List String) (e : FileEntry) : FileTree :=
  { t with branch := t.branch.put e place }

/-- A change at one place is seen there and nowhere else. -/
theorem find?_put (t : FileTree) {place : List String} (h : place ≠ []) (e : FileEntry)
    (other : List String) :
    (t.put place e).find? other = if other = place then some e else t.find? other := by
  unfold find? put
  by_cases ho : other = []
  · simp [ho, Ne.symm h]
  · simp [ho, FileBranch.find?_put]

/-- The tree without a place and everything below it. -/
def erase (t : FileTree) (place : List String) : FileTree :=
  { t with branch := t.branch.erase place }

/-! ## Paths to places -/

/-- Whether the path has a zero character. -/
def hasZero (s : String) : Bool :=
  s.toList.contains '\x00'

/-- Whether a path can be looked for at all, whatever the tree holds. -/
def checkText (limits : FileLimits) (s : String) : Except FileError Unit :=
  if hasZero s then .error .zeroCharacter
  else if FileLimits.isExceeded limits.path? s then .error .nameTooLong
  else .ok ()

/-- The place that components lead to from the directory `place`; the last one may be missing. -/
def locate (t : FileTree) (place : List String) :
    List PathComponent → Except FileError (List String)
  | [] => .ok place
  | c :: rest =>
    match t.find? place, c with
    | none, _ => .error .notFound
    | some (.file _), _ => .error .notDirectory
    | some .directory, .name n =>
      if FileLimits.isExceeded t.limits.name? n then .error .nameTooLong
      else locate t (place ++ [n]) rest
    | some .directory, .up => locate t place.dropLast rest
    | some .directory, .root => locate t [] rest
    | some .directory, .here => locate t place rest

/-- The place that a path leads to; the last name may be missing. -/
def locatePath (t : FileTree) (p : Path) : Except FileError (List String) := do
  checkText t.limits p.text
  if p.text = "" then .error .notFound else t.locate t.current p.components

/-! ## Operations -/

/-- The content of a file. -/
def read (t : FileTree) (p : Path) : Except FileError ByteArray := do
  match t.find? (← t.locatePath p) with
  | none => .error .notFound
  | some .directory => .error .isDirectory
  | some (.file content) => if p.asksForDirectory then .error .notDirectory else .ok content

/-- Whether there is a file or directory at the path. -/
def exists? (t : FileTree) (p : Path) : Bool :=
  match t.read p with
  | .ok _ | .error .isDirectory => true
  | .error _ => false

/--
The tree with the directories that components lead through from the directory `place`, and the
failure that ended their making, if any. Directories made before the failure stay.
-/
def makeDirectories (t : FileTree) (place : List String) :
    List PathComponent → FileTree × Except FileError Unit
  | [] => (t, .ok ())
  | .root :: rest => makeDirectories t [] rest
  | .here :: rest => makeDirectories t place rest
  | .up :: rest => makeDirectories t place.dropLast rest
  | .name n :: rest =>
    if FileLimits.isExceeded t.limits.name? n then (t, .error .nameTooLong)
    else
      let next := place ++ [n]
      match t.find? next with
      | some .directory => makeDirectories t next rest
      | some (.file _) =>
        (t, .error (if rest.isEmpty then .alreadyExists else .notDirectory))
      | none => makeDirectories (t.put next .directory) next rest

/--
The tree with a directory at the path and all directories above it. A path that ends in a dot goes
through its last name, so that the directory of this name has to be there.
-/
def makeDirectory (t : FileTree) (p : Path) : FileTree × Except FileError Unit :=
  match checkText t.limits p.text with
  | .error e => (t, .error e)
  | .ok () =>
    if p.endsInDot then
      match t.makeDirectories t.current p.components.dropLast with
      | (t, .error e) => (t, .error e)
      | (t, .ok ()) => (t, (t.locate t.current (p.components ++ [.here])).map fun _ => ())
    else t.makeDirectories t.current p.components

/-- The tree with `content` in the file at the path, whose directory is there. -/
def writeFile (t : FileTree) (p : Path) (content : ByteArray) : FileTree × Except FileError Unit :=
  match t.locatePath p with
  | .error e => (t, .error e)
  | .ok place =>
    match t.find? place with
    | some .directory => (t, .error .isDirectory)
    | some (.file _) =>
      if p.asksForDirectory then (t, .error .notDirectory)
      else (t.put place (.file content), .ok ())
    | none =>
      if p.asksForDirectory then (t, .error .isDirectory)
      else (t.put place (.file content), .ok ())

/-- The tree with `content` in the file at the path, and with the directories it is in. -/
def write (t : FileTree) (p : Path) (content : ByteArray) : FileTree × Except FileError Unit :=
  match p.parent? with
  | none => t.writeFile p content
  | some parent =>
    match t.makeDirectory parent with
    | (t, .error e) => (t, .error e)
    | (t, .ok ()) => t.writeFile p content

/--
The tree without the file or directory at the path. A directory is emptied before it is removed. A
path that ends in a dot does not allow the second step, and a path that ends in two dots leads
nowhere any more by then, since it goes through a directory that was emptied out.
-/
def remove (t : FileTree) (p : Path) : FileTree × Except FileError Unit :=
  match t.locatePath p with
  | .error e => (t, .error e)
  | .ok place =>
    match t.find? place with
    | none => (t, .error .notFound)
    | some (.file _) =>
      if p.asksForDirectory then (t, .error .notDirectory) else (t.erase place, .ok ())
    | some .directory =>
      let emptied := (t.erase place).put place .directory
      if p.components.getLast? = some .up then (emptied, .ok ())
      else if p.endsInDot then (emptied, .error .invalidArgument)
      else (t.erase place, .ok ())

/-- All files and all empty directories with their sizes, in the order of their paths. -/
def listing (t : FileTree) : List (String × Nat) :=
  (FileBranch.childLines "" t.branch.children).mergeSort fun a b => a.1 ≤ b.1

/-- The part of the tree below a place, as a tree of its own. -/
def below (t : FileTree) (place : List String) : FileTree where
  branch := t.branch.branchAt place

end FileTree

end EntitySlice
