/-!
# Branches of a tree of files

A branch is what a tree holds at one place and below it: an entry, if there is one, and a branch for
each name that leads further. `find?` looks along a list of names and `put` changes what stands at
its end; `find?_put` says that a change is seen there and nowhere else.
-/

namespace EntitySlice

/-- What stands at a place of a tree. -/
inductive FileEntry
  | file (content : ByteArray)
  | directory

/-- What a tree holds at a place, and the branches that names lead to from there. -/
inductive FileBranch
  | node (here? : Option FileEntry) (children : List (String × FileBranch))

namespace FileBranch

/-- The branch that holds nothing. -/
def empty : FileBranch := node none []

instance : Inhabited FileBranch := ⟨empty⟩

/-- What stands at the place of the branch. -/
def here? : FileBranch → Option FileEntry
  | node e? _ => e?

/-- The branches that names lead to. -/
def children : FileBranch → List (String × FileBranch)
  | node _ cs => cs

/-- The branch that a name leads to. -/
def child (b : FileBranch) (n : String) : FileBranch :=
  (b.children.lookup n).getD empty

/-- The branch with another branch behind a name. -/
def setChild (b : FileBranch) (n : String) (c : FileBranch) : FileBranch :=
  node b.here? ((n, c) :: b.children.filter fun other => other.1 != n)

/-- The branch that names lead to. -/
def branchAt (b : FileBranch) : List String → FileBranch
  | [] => b
  | n :: rest => (b.child n).branchAt rest

/-- What stands where names lead. -/
def find? (b : FileBranch) : List String → Option FileEntry
  | [] => b.here?
  | n :: rest => (b.child n).find? rest

/-- The branch with `e` where names lead. -/
def put (e : FileEntry) (b : FileBranch) : List String → FileBranch
  | [] => node (some e) b.children
  | n :: rest => b.setChild n ((b.child n).put e rest)

/-- The branch without what stands where names lead, and without everything below that. -/
def erase (b : FileBranch) : List String → FileBranch
  | [] => empty
  | n :: rest => b.setChild n ((b.child n).erase rest)

theorem lookup_filter_ne {m n : String} (h : m ≠ n) (cs : List (String × FileBranch)) :
    (cs.filter fun other => other.1 != n).lookup m = cs.lookup m := by
  induction cs with
  | nil => rfl
  | cons c rest ih =>
    obtain ⟨k, b⟩ := c
    by_cases hk : k = n
    · have : (m == n) = false := by simpa using h
      simp [hk, List.lookup_cons, ih, this]
    · simp [hk, List.lookup_cons, ih]

@[simp] theorem child_empty (n : String) : empty.child n = empty := rfl

@[simp] theorem here?_setChild (b : FileBranch) (n : String) (c : FileBranch) :
    (b.setChild n c).here? = b.here? := rfl

/-- A branch behind one name is seen there, and the others stay what they are. -/
theorem child_setChild (b : FileBranch) (n : String) (c : FileBranch) (m : String) :
    (b.setChild n c).child m = if m = n then c else b.child m := by
  unfold child setChild children
  by_cases h : m = n
  · simp [h]
  · have hb : (m == n) = false := by simpa using h
    simp [h, List.lookup_cons, hb, lookup_filter_ne h]

@[simp] theorem find?_empty (place : List String) : empty.find? place = none := by
  induction place with
  | nil => rfl
  | cons n rest ih => simpa [find?] using ih

/-- A change at one place is seen there and nowhere else. -/
theorem find?_put (e : FileEntry) (b : FileBranch) (place other : List String) :
    (b.put e place).find? other = if other = place then some e else b.find? other := by
  induction place generalizing b other with
  | nil => cases other <;> rfl
  | cons n place ih =>
    cases other with
    | nil => simp [put, find?]
    | cons m other =>
      rw [put, find?, child_setChild]
      by_cases h : m = n
      · simp [h, ih, find?]
      · simp [h, find?]

/-! ## Listings -/

mutual

/--
The lines of a listing for a branch at `path`: files with their size, and directories with a slash
if nothing is in them.
-/
def lines (path : String) : FileBranch → List (String × Nat)
  | node e? cs =>
    let inner := childLines (path ++ "/") cs
    match e? with
    | some (.file content) => (path, content.size) :: inner
    | some .directory => if inner.isEmpty then [(path ++ "/", 0)] else inner
    | none => inner

/-- The lines for the branches behind names, whose paths start with `start`. -/
def childLines (start : String) : List (String × FileBranch) → List (String × Nat)
  | [] => []
  | (n, b) :: rest => b.lines (start ++ n) ++ childLines start rest

end

end FileBranch

end EntitySlice
