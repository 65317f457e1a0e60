import EntitySlice.Text.ClusterTable

/-!
# Grapheme clusters

A text falls into clusters, the units that a reader takes for one character: a letter with its
accents, an emoji built from several, the consonants of an Indic conjunct. `clusters` cuts a text by
the rules for extended grapheme clusters, one boundary at a time; no character is lost
(`flatten_clusters`).
-/

namespace EntitySlice.Text

/-- What the boundary rules see of a character. -/
inductive BreakClass
  | carriageReturn | lineFeed | control
  | extending | linking | nonJoiner | joiner | spacingMark | prepended
  | regional | leadingJamo | vowelJamo | trailingJamo | openSyllable | closedSyllable
  | pictographic | consonant | other
  deriving DecidableEq, Repr

/-- The class of a character. -/
def BreakClass.of (c : Char) : BreakClass :=
  let n := c.toNat
  if n = 0x0D then .carriageReturn
  else if n = 0x0A then .lineFeed
  else if 0x20 ≤ n && n ≤ 0x7E then .other
  else if n = 0x200C then .nonJoiner
  else if n = 0x200D then .joiner
  else if ClusterTable.control.has c then .control
  else if ClusterTable.linking.has c then .linking
  else if ClusterTable.extending.has c then .extending
  else if ClusterTable.spacingMark.has c then .spacingMark
  else if ClusterTable.prepended.has c then .prepended
  else if 0x1F1E6 ≤ n && n ≤ 0x1F1FF then .regional
  else if (0x1100 ≤ n && n ≤ 0x115F) || (0xA960 ≤ n && n ≤ 0xA97C) then .leadingJamo
  else if (0x1160 ≤ n && n ≤ 0x11A7) || (0xD7B0 ≤ n && n ≤ 0xD7C6) || n = 0x16D63
      || (0x16D67 ≤ n && n ≤ 0x16D6A) then .vowelJamo
  else if (0x11A8 ≤ n && n ≤ 0x11FF) || (0xD7CB ≤ n && n ≤ 0xD7FB) then .trailingJamo
  else if 0xAC00 ≤ n && n ≤ 0xD7A3 then
    if (n - 0xAC00) % 28 = 0 then .openSyllable else .closedSyllable
  else if ClusterTable.pictographic.has c then .pictographic
  else if ClusterTable.consonants.has c then .consonant
  else .other

/-- What the last characters of a cluster can still be the beginning of. -/
inductive Opening
  /-- An emoji, perhaps with marks. -/
  | emoji
  /-- An emoji, perhaps with marks, and a joiner: one more emoji may follow. -/
  | joinedEmoji
  /-- An Indic consonant, perhaps with marks or joiners. -/
  | consonant
  /-- The same with a linking mark among them: one more consonant may follow. -/
  | linkedConsonant
  /-- Nothing. -/
  | none
  deriving DecidableEq, Repr

/-- What stays open after one more character of the same cluster. -/
def Opening.next (o : Opening) (k : BreakClass) : Opening :=
  match k, o with
  | .pictographic, _ => .emoji
  | .consonant, _ => .consonant
  | .joiner, .emoji => .joinedEmoji
  | .linking, .consonant => .linkedConsonant
  | .extending, .emoji | .linking, .emoji | .nonJoiner, .emoji => .emoji
  | .extending, .consonant | .joiner, .consonant => .consonant
  | .extending, .linkedConsonant | .joiner, .linkedConsonant
  | .linking, .linkedConsonant => .linkedConsonant
  | _, _ => .none

/-- What the rules remember of the characters before a boundary. -/
structure BreakState where
  /-- The class of the last character. -/
  last : BreakClass
  /-- What the cluster may go on with because of more than its last character. -/
  opening : Opening
  /-- Whether the cluster so far holds an odd number of regional indicators. -/
  oddRegional : Bool

/-- The state after the first character of a cluster. -/
def BreakState.start (k : BreakClass) : BreakState :=
  ⟨k, Opening.none.next k, k = .regional⟩

/-- The state after one more character of the same cluster. -/
def BreakState.extend (s : BreakState) (k : BreakClass) : BreakState :=
  ⟨k, s.opening.next k, k = .regional && !s.oddRegional⟩

/-- Whether a character of class `k` continues the cluster. -/
def BreakState.joins (s : BreakState) (k : BreakClass) : Bool :=
  match s.last, k with
  | .carriageReturn, .lineFeed => true
  | .carriageReturn, _ | .lineFeed, _ | .control, _ => false
  | _, .carriageReturn | _, .lineFeed | _, .control => false
  | _, .extending | _, .linking | _, .nonJoiner | _, .joiner | _, .spacingMark => true
  | .prepended, _ => true
  | .leadingJamo, .leadingJamo | .leadingJamo, .vowelJamo | .leadingJamo, .openSyllable
  | .leadingJamo, .closedSyllable => true
  | .openSyllable, .vowelJamo | .openSyllable, .trailingJamo => true
  | .vowelJamo, .vowelJamo | .vowelJamo, .trailingJamo => true
  | .closedSyllable, .trailingJamo | .trailingJamo, .trailingJamo => true
  | _, .pictographic => s.opening = .joinedEmoji
  | _, .consonant => s.opening = .linkedConsonant
  | .regional, .regional => s.oddRegional
  | _, _ => false

/-- The clusters of a text of which `current`, last character first, has been read. -/
def clustersAfter (current : List Char) (state : BreakState) : List Char → List (List Char)
  | [] => [current.reverse]
  | c :: rest =>
    let k := BreakClass.of c
    if state.joins k then clustersAfter (c :: current) (state.extend k) rest
    else current.reverse :: clustersAfter [c] (.start k) rest

/-- The grapheme clusters of a text, in order. -/
def clusters : List Char → List (List Char)
  | [] => []
  | c :: rest => clustersAfter [c] (.start (.of c)) rest

theorem flatten_clustersAfter (current : List Char) (state : BreakState) (cs : List Char) :
    (clustersAfter current state cs).flatten = current.reverse ++ cs := by
  induction cs generalizing current state with
  | nil => simp [clustersAfter]
  | cons c rest ih =>
    rw [clustersAfter]
    split <;> simp [ih]

/-- Cutting into clusters loses nothing. -/
theorem flatten_clusters (cs : List Char) : (clusters cs).flatten = cs := by
  cases cs with
  | nil => rfl
  | cons c rest => simp [clusters, flatten_clustersAfter]

end EntitySlice.Text
