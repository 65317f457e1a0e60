/-!
# Paths

A path is the text that names a file; it is shown as it was given. What it means is a list of
components: repeated slashes, a slash at the end and a dot in the middle do not count. Two paths
are the same, and one lies below another, when their components say so.
-/

namespace EntitySlice

/-- The name of a file or directory as a text with slashes. -/
structure Path where
  text : String
  deriving DecidableEq, Repr, Inhabited

/-- One part of what a path means. -/
inductive PathComponent
  /-- The slash that starts an absolute path. -/
  | root
  /-- A dot that starts a path. -/
  | here
  /-- Two dots. -/
  | up
  /-- A name. -/
  | name (n : String)
  deriving DecidableEq, Repr

namespace Path

/-- The parts of a list of characters between slashes; `current`, last first, has been read. -/
def splitAfter (current : List Char) : List Char → List (List Char)
  | [] => [current.reverse]
  | c :: rest =>
    if c = '/' then current.reverse :: splitAfter [] rest else splitAfter (c :: current) rest

/-- The texts between the slashes of a path; some may be empty. -/
def pieces (p : Path) : List String :=
  (splitAfter [] p.text.toList).map String.ofList

/-- Whether the path starts at the root. -/
def isAbsolute (p : Path) : Bool :=
  p.text.toList.head? = some '/'

/-- The component that a piece stands for, after the first one. -/
def component? (piece : String) : Option PathComponent :=
  if piece = "" || piece = "." then none
  else if piece = ".." then some .up
  else some (.name piece)

/-- What the path means. -/
def components (p : Path) : List PathComponent :=
  let start : List PathComponent :=
    if p.isAbsolute then [.root] else if p.pieces.head? = some "." then [.here] else []
  start ++ p.pieces.filterMap component?

/-- Whether the path consists of names alone. -/
def isPlain (p : Path) : Bool :=
  p.components.all fun c => match c with
    | .name _ => true
    | _ => false

/-- Whether `p` is `base` or lies below it. -/
def isBelow (p base : Path) : Bool :=
  base.components.isPrefixOf p.components

/-- The pieces of a path without those at the end that mean nothing. -/
def trimPieces (pieces : List String) : List String :=
  (pieces.reverse.dropWhile fun piece => (component? piece).isNone).reverse

/-- What is left of the text of a path when all its names are taken away. -/
def startText (p : Path) : String :=
  if p.isAbsolute then "/" else if p.pieces.head? = some "." then "." else ""

/-- The directory that the path is in; a path without a name is in none. -/
def parent? (p : Path) : Option Path :=
  match p.components.getLast? with
  | none | some .root => none
  | some .here => some ⟨""⟩
  | some _ =>
    match trimPieces (trimPieces p.pieces).dropLast with
    | [] => some ⟨p.startText⟩
    | pieces => some ⟨"/".intercalate pieces⟩

/-- Whether the text of the path ends in a dot that stands between slashes. -/
def endsInDot (p : Path) : Bool :=
  p.pieces.reverse.find? (· ≠ "") = some "."

/-- Whether the text of the path asks for a directory: it ends in a slash, or in a dot. -/
def asksForDirectory (p : Path) : Bool :=
  match p.pieces.getLast? with
  | some piece => piece = "" || piece = "."
  | none => false

/-- The path `q` seen from `p`; an absolute path is the same from everywhere. -/
def join (p q : Path) : Path :=
  if q.isAbsolute then q
  else if p.text.toList.getLast?.any (· != '/') then ⟨p.text ++ "/" ++ q.text⟩
  else ⟨p.text ++ q.text⟩

instance : HDiv Path String Path := ⟨fun p s => p.join ⟨s⟩⟩

end Path

end EntitySlice
