import EntitySlice.Yaml.Token

/-!
# YAML documents

The nesting half of reading YAML: tokens make up nodes, which are scalars, sequences and mappings.
Anchors are numbered: each gets the number of different names that came up before it, so a name
that comes up again takes the next number and leaves it to the next new name too. An alias stands
for the last node in the document whose anchor has the number of its own name; since this may be a
node around or behind the alias, the nodes with an anchor are kept in a table. `Document.parse?`
reads texts of at most one document.
-/

namespace EntitySlice.Yaml

/-- A node of a document. -/
inductive Node
  | scalar (style : ScalarStyle) (tag? : Option String) (text : String)
  | sequence (items : List Node)
  | mapping (entries : List (Node × Node))
  /-- The last node with an anchor of this number. -/
  | alias (number : Nat)
  deriving Inhabited

/-- The node where nothing is written. -/
def Node.empty : Node := .scalar .plain none ""

/-- A document. An anchor has a place, the count of anchors before it, besides its number. -/
structure Document where
  root : Node
  /-- The numbers of all anchors with their places, the last anchor first. -/
  places : List (Nat × Nat)
  /-- The nodes with anchors by the places of their anchors. -/
  anchored : List (Nat × Node)

/-- The node that a node stands for. -/
def Document.resolve (d : Document) : Node → Node
  | .alias n => ((d.places.lookup n).bind fun place => d.anchored.lookup place).getD .empty
  | node => node

/-! ## Reading tokens -/

/-- What is known before the next token. -/
structure Reading where
  tokens : List Token
  /-- What the handles of tags stand for. -/
  handles : List (String × String) := []
  /-- The number that each name of an anchor had last. -/
  names : List (String × Nat) := []
  /-- The numbers of all anchors so far with their places, the last anchor first. -/
  places : List (Nat × Nat) := []
  /-- The nodes with anchors that are complete, by the places of their anchors. -/
  anchored : List (Nat × Node) := []

/-- Readers of parts of a document; they have no result if the tokens do not fit. -/
abbrev Reader := StateT Reading Option

namespace Reader

/-- The next token. -/
def peek : Reader (Option Token) := do return (← get).tokens.head?

/-- Move over a token. -/
def drop : Reader Unit := modify fun r => { r with tokens := r.tokens.tail }

/-- Whether the next token is one of the given ones, or the tokens end. -/
def atAny (ts : List Token) : Reader Bool := do
  match ← peek with
  | some t => return ts.contains t
  | none => return true

/-- Move over a token that must come next. -/
def expect (t : Token) : Reader Unit := do
  if (← peek) = some t then drop else failure

/-- Move over a token if it comes next. -/
def accept (t : Token) : Reader Bool := do
  if (← peek) = some t then
    drop
    return true
  else return false

end Reader

open Reader

/-- What the handles of tags stand for without being told. -/
def defaultHandles : List (String × String) := [("!", "!"), ("!!", "tag:yaml.org,2002:")]

/-- The tag with a handle and a suffix; no handle is before a tag that is complete. -/
def fullTag (handle suffix : String) : Reader String := do
  if handle = "" then return suffix
  match ((← get).handles ++ defaultHandles).lookup handle with
  | some start => return start ++ suffix
  | none => failure

/-- The place of the anchor that comes next. -/
def Reading.nextPlace (r : Reading) : Nat :=
  match r.places with
  | [] => 0
  | (_, place) :: _ => place + 1

/-- What is known after an anchor: its number is the number of names before it. -/
def Reading.noteAnchor (name : String) (r : Reading) : Reading :=
  let number := r.names.length
  { r with
    names := (name, number) :: r.names.filter (·.1 ≠ name)
    places := (number, r.nextPlace) :: r.places }

/-- The anchor that comes next, by its place. -/
def anchor? : Reader (Option Nat) := do
  match ← peek with
  | some (.anchor name) =>
    drop
    let place := (← get).nextPlace
    modify (·.noteAnchor name)
    return some place
  | _ => return none

/-- The tag that comes next. -/
def tagged? : Reader (Option String) := do
  match ← peek with
  | some (.tag handle suffix) =>
    drop
    return some (← fullTag handle suffix)
  | _ => return none

/-- The anchor and the tag that come next, in any order; the anchor is given by its place. -/
def properties : Reader (Option Nat × Option String) := do
  match ← anchor? with
  | some place => return (some place, ← tagged?)
  | none =>
    match ← tagged? with
    | some tag => return (← anchor?, some tag)
    | none => return (none, none)

/-- Keep a node whose anchor has the given place. -/
def keep (place? : Option Nat) (node : Node) : Reader Unit :=
  match place? with
  | some place => modify fun r => { r with anchored := (place, node) :: r.anchored }
  | none => pure ()

mutual

/--
The next node. In a block it may be a block collection, and where `indentless` holds also a
sequence whose items stand below a key and not further in.
-/
def readNode : (fuel : Nat) → (inBlock indentless : Bool) → Reader Node
  | 0, _, _ => failure
  | fuel + 1, inBlock, indentless => do
    if let some (.alias name) ← peek then
      drop
      match (← get).names.lookup name with
      | some n => return .alias n
      | none => failure
    let (place?, tag?) ← properties
    let node ← readContent fuel inBlock indentless (place?.isSome || tag?.isSome) tag?
    keep place? node
    return node

/-- The next node after its properties; with a property it may be empty. -/
def readContent : (fuel : Nat) → (inBlock indentless mayBeEmpty : Bool) → Option String →
    Reader Node
  | 0, _, _, _, _ => failure
  | fuel + 1, inBlock, indentless, mayBeEmpty, tag? => do
    match ← peek with
    | some (.scalar style text) =>
      drop
      return .scalar style tag? text
    | some .flowSequenceStart =>
      drop
      return .sequence (← readFlowItems fuel true)
    | some .flowMappingStart =>
      drop
      return .mapping (← readFlowEntries fuel true)
    | t =>
      if t = some .blockEntry && indentless then
        return .sequence (← readIndentlessItems fuel)
      else if t = some .blockSequenceStart && inBlock then
        drop
        return .sequence (← readBlockItems fuel)
      else if t = some .blockMappingStart && inBlock then
        drop
        return .mapping (← readBlockEntries fuel)
      else if mayBeEmpty then return .scalar .plain tag? ""
      else failure

/-- The items of a block sequence up to its end. -/
def readBlockItems : Nat → Reader (List Node)
  | 0 => failure
  | fuel + 1 => do
    if ← accept .blockEntry then
      let item ← if ← atAny [.blockEntry, .blockEnd] then pure .empty else readNode fuel true false
      return item :: (← readBlockItems fuel)
    else
      expect .blockEnd
      return []

/-- The items of a sequence that is not further in than the mapping around it. -/
def readIndentlessItems : Nat → Reader (List Node)
  | 0 => failure
  | fuel + 1 => do
    if ← accept .blockEntry then
      let item ← if ← atAny [.blockEntry, .key, .value, .blockEnd] then pure .empty
        else readNode fuel true false
      return item :: (← readIndentlessItems fuel)
    else return []

/-- The key or the value of a block mapping that follows its sign. -/
def readBlockPart : Nat → Reader Node
  | 0 => failure
  | fuel + 1 => do
    if ← atAny [.key, .value, .blockEnd] then return .empty else readNode fuel true true

/-- The entries of a block mapping up to its end. -/
def readBlockEntries : Nat → Reader (List (Node × Node))
  | 0 => failure
  | fuel + 1 => do
    if ← accept .blockEnd then return []
    else
      expect .key
      let key ← readBlockPart fuel
      let value ← if ← accept .value then readBlockPart fuel else pure .empty
      return (key, value) :: (← readBlockEntries fuel)

/-- The items of a sequence in brackets up to its end. -/
def readFlowItems : Nat → (first : Bool) → Reader (List Node)
  | 0, _ => failure
  | fuel + 1, first => do
    if ← accept .flowSequenceEnd then return []
    unless first do expect .flowEntry
    if ← accept .flowSequenceEnd then return []
    let item ← if ← accept .key then readPair fuel else readNode fuel false false
    return item :: (← readFlowItems fuel false)

/-- The mapping with one entry that an item of a sequence in brackets may be, after its sign. -/
def readPair : Nat → Reader Node
  | 0 => failure
  | fuel + 1 => do
    let key ← if ← atAny [.value, .flowEntry, .flowSequenceEnd] then
        drop
        pure .empty
      else readNode fuel false false
    let value ← if ← accept .value then
        if ← atAny [.flowEntry, .flowSequenceEnd] then pure .empty else readNode fuel false false
      else pure .empty
    return .mapping [(key, value)]

/-- The entries of a mapping in braces up to its end. -/
def readFlowEntries : Nat → (first : Bool) → Reader (List (Node × Node))
  | 0, _ => failure
  | fuel + 1, first => do
    if ← accept .flowMappingEnd then return []
    unless first do expect .flowEntry
    if ← accept .flowMappingEnd then return []
    let entry ← if ← accept .key then readEntry fuel
      else do pure (← readNode fuel false false, .empty)
    return entry :: (← readFlowEntries fuel false)

/-- The entry of a mapping in braces that follows the sign of its key. -/
def readEntry : Nat → Reader (Node × Node)
  | 0 => failure
  | fuel + 1 => do
    let key ← if ← atAny [.value, .flowEntry, .flowMappingEnd] then pure .empty
      else readNode fuel false false
    let value ← if ← accept .value then
        if ← atAny [.flowEntry, .flowMappingEnd] then pure .empty else readNode fuel false false
      else pure .empty
    return (key, value)

end

/-! ## Documents -/

/-- The directives before a document; `versioned` says whether there was one for the version. -/
def readDirectives : (fuel : Nat) → (versioned : Bool) → Reader Unit
  | 0, _ => failure
  | fuel + 1, versioned => do
    match ← peek with
    | some (.versionDirective major minor) =>
      if versioned || major ≠ 1 || (minor ≠ 1 && minor ≠ 2) then failure
      drop
      readDirectives fuel true
    | some (.tagDirective handle start) =>
      if ((← get).handles.lookup handle).isSome then failure
      drop
      modify fun r => { r with handles := (handle, start) :: r.handles }
      readDirectives fuel versioned
    | _ => return

/-- Whether a token is a directive or the start of a document. -/
def startsDocument : Token → Bool
  | .versionDirective .. | .tagDirective .. | .documentStart => true
  | _ => false

/-- The outermost node of the document that comes next. -/
def readRoot (fuel : Nat) : Reader Node := do
  if (← peek).any startsDocument then
    readDirectives fuel false
    expect .documentStart
    if (← peek).all fun t => startsDocument t || t = .documentEnd then return .empty
  readNode fuel true false

/-- More steps than any reader takes over the tokens. -/
def readFuel (tokens : List Token) : Nat := 4 * tokens.length + 4

/-- The document that tokens make up: `some none` if there is none, `none` if they do not fit. -/
def Document.ofTokens? (tokens : List Token) : Option (Option Document) :=
  if tokens.isEmpty then some none
  else do
    let (root, r) ← (readRoot (readFuel tokens)).run { tokens }
    guard (r.tokens.all (· = .documentEnd))
    return some ⟨root, r.places, r.anchored⟩

/-- The document in a text: `some none` if there is none, `none` if the text is malformed. -/
def Document.parse? (text : String) : Option (Option Document) := do
  ofTokens? (← scan text)

end EntitySlice.Yaml
