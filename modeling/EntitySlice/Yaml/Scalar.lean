import EntitySlice.Yaml.Cursor

/-!
# Scalars of a YAML text

A scalar is written plain, in quotes or as a block. Line breaks inside it are folded: a single one
becomes a space, of several the first one is dropped. Every reader here returns the text of the
scalar and the place behind it, or nothing if the scalar is malformed.
-/

namespace EntitySlice.Yaml

open EntitySlice.Number

/-! ## Folding -/

/-- What stands between two words of a scalar. -/
structure Gap where
  /-- Spaces and tabs before the first line break. -/
  blanks : Array Char := #[]
  /-- The first line break; an escaped one counts, but is no character. -/
  first? : Option (Option Char) := none
  /-- The other line breaks. -/
  others : Array Char := #[]
  /-- Whether a tab stands where a line is indented. -/
  tabbed : Bool := false

namespace Gap

/-- Whether the gap goes over the end of a line. -/
def hasBreak (g : Gap) : Bool := g.first?.isSome

/-- The characters that the gap stands for. -/
def fold (g : Gap) : Array Char :=
  match g.first? with
  | none => g.blanks
  | some (some '\n') => if g.others.isEmpty then #[' '] else g.others
  | some first? => first?.toArray ++ g.others

/-- The gap with one more space or tab, which stands before the indentation `indent` or not. -/
def addBlank (g : Gap) (inIndent : Bool) (c : Char) : Gap :=
  if g.hasBreak then { g with tabbed := g.tabbed || (inIndent && c = '\t') }
  else { g with blanks := g.blanks.push c }

/-- The gap with one more line break. -/
def addBreak (g : Gap) (c : Char) : Gap :=
  if g.hasBreak then { g with others := g.others.push c }
  else { g with first? := some (some c) }

end Gap

/-- The gap that goes on with the given characters, in a scalar that is indented by `indent`. -/
def gapFrom (indent : Nat) (g : Gap) (line column offset : Nat) : List Char → Gap × Cursor
  | [] => (g, ⟨[], line, column, offset⟩)
  | c :: rest =>
    let next := offset + c.utf8Size
    if isBreak c then gapFrom indent (g.addBreak c) (line + 1) 0 next rest
    else if isGap c then
      gapFrom indent (g.addBlank (decide (column < indent)) c) line (column + 1) next rest
    else (g, ⟨c :: rest, line, column, offset⟩)

/-- The gap at the cursor that goes on after `g`. -/
def gapAfter (indent : Nat) (g : Gap) (c : Cursor) : Gap × Cursor :=
  gapFrom indent g c.line c.column c.offset c.rest

/-! ## Plain scalars -/

/-- The characters that end a plain scalar inside brackets. -/
def isFlowMark (c : Char) : Bool :=
  c = ',' || c = '[' || c = ']' || c = '\x7b' || c = '\x7d'

/-- The word of a plain scalar that comes first, and what follows it. -/
def plainWord (inFlow : Bool) : List Char → Option (List Char × List Char)
  | [] => some ([], [])
  | c :: rest =>
    if endsWord c then some ([], c :: rest)
    else if inFlow && c = ':' && rest.head?.any (fun d => isFlowMark d || d = '?') then none
    else if (c = ':' && atWordEnd rest) || (inFlow && isFlowMark c) then some ([], c :: rest)
    else (plainWord inFlow rest).map (Prod.map (c :: ·) id)

/-- The rest of a plain scalar behind `text` and the gap `g`; at most `fuel` words. -/
def plainFrom (inFlow : Bool) (indent : Nat) :
    Nat → Array Char → Gap → Cursor → Option (Array Char × Bool × Cursor)
  | 0, _, _, _ => none
  | fuel + 1, text, g, c =>
    if c.atDocumentMark || c.head? = some '#' then some (text, g.hasBreak, c)
    else
      match plainWord inFlow c.rest with
      | none => none
      | some ([], _) => some (text, g.hasBreak, c)
      | some (word, rest) =>
        let text := text ++ g.fold ++ word
        let c := c.past word rest
        if rest.isEmpty || !atWordEnd rest then some (text, false, c)
        else
          let (g, c) := gapAfter indent {} c
          if g.tabbed then none
          else if !inFlow && c.column < indent then some (text, g.hasBreak, c)
          else plainFrom inFlow indent fuel text g c

/-- The plain scalar at the cursor, of at most `fuel` words, and whether a line break follows it. -/
def plainScalar (fuel : Nat) (inFlow : Bool) (indent : Nat) (c : Cursor) :
    Option (Array Char × Bool × Cursor) :=
  plainFrom inFlow indent fuel #[] {} c

/-! ## Quoted scalars -/

/-- A part of a quoted scalar up to a gap, a quote or an escaped line break. -/
structure QuotedWord where
  text : List Char := []
  /-- The number of characters by which the part is written. -/
  width : Nat := 0
  /-- Whether the part ends in an escaped line break, which is at the start of the rest. -/
  escapedBreak : Bool := false
  rest : List Char

/-- The word with one more character before it, which is written by `width` characters. -/
def QuotedWord.cons (width : Nat) (c : Char) (w : QuotedWord) : QuotedWord :=
  { w with text := c :: w.text, width := width + w.width }

/-- A word between single quotes; two of them stand for one. -/
def singleQuotedWord : List Char → QuotedWord
  | '\'' :: '\'' :: rest => (singleQuotedWord rest).cons 2 '\''
  | [] => { rest := [] }
  | c :: rest =>
    if c = '\'' || endsWord c then { rest := c :: rest } else (singleQuotedWord rest).cons 1 c

/-- The character that a letter after a backslash stands for. -/
def escapedChar? : Char → Option Char
  | '0' => some '\x00'
  | 'a' => some '\x07'
  | 'b' => some '\x08'
  | 't' | '\t' => some '\t'
  | 'n' => some '\n'
  | 'v' => some '\x0b'
  | 'f' => some '\x0c'
  | 'r' => some '\r'
  | 'e' => some '\x1b'
  | ' ' => some ' '
  | '"' => some '"'
  | '/' => some '/'
  | '\\' => some '\\'
  | 'N' => some '\x85'
  | '_' => some '\u00a0'
  | 'L' => some '\u2028'
  | 'P' => some '\u2029'
  | _ => none

/-- The number of digits of the code after a letter. -/
def codeLength? : Char → Option Nat
  | 'x' => some 2
  | 'u' => some 4
  | 'U' => some 8
  | _ => none

/-- The character with a code of `n` digits that comes first. -/
def codedChar? (n : Nat) (cs : List Char) : Option Char :=
  if cs.length < n then none
  else
    (readDigits? 16 (cs.take n)).bind fun code =>
      if h : code.isValidChar then some (Char.ofNatAux code h) else none

/-- A word between double quotes, of at most `fuel` characters. -/
def doubleQuotedWord : Nat → List Char → Option QuotedWord
  | 0, _ => none
  | _ + 1, [] => some { rest := [] }
  | fuel + 1, '\\' :: e :: rest =>
    if isBreak e then some { escapedBreak := true, rest := '\\' :: e :: rest }
    else
      match escapedChar? e, codeLength? e with
      | some c, _ => (doubleQuotedWord fuel rest).map (QuotedWord.cons 2 c)
      | none, some n =>
        match codedChar? n rest with
        | some c => (doubleQuotedWord fuel (rest.drop n)).map (QuotedWord.cons (2 + n) c)
        | none => none
      | none, none => none
  | fuel + 1, c :: rest =>
    if c = '\\' then none
    else if c = '"' || endsWord c then some { rest := c :: rest }
    else (doubleQuotedWord fuel rest).map (QuotedWord.cons 1 c)

/-- A word between quotes, of at most `fuel` characters. -/
def quotedWord (fuel : Nat) (quote : Char) (cs : List Char) : Option QuotedWord :=
  if quote = '\'' then some (singleQuotedWord cs) else doubleQuotedWord fuel cs

/-- The rest of a quoted scalar behind `text`; at most `fuel` words. -/
def quotedFrom (quote : Char) : Nat → Array Char → Cursor → Option (Array Char × Cursor)
  | 0, _, _ => none
  | fuel + 1, text, c =>
    if c.atDocumentMark || c.rest.isEmpty then none
    else
      match quotedWord (fuel + 1) quote c.rest with
      | none => none
      | some w =>
        let text := text ++ w.text
        let c := c.past (c.rest.take w.width) w.rest
        if c.head? = some quote then some (text, c.next)
        else
          let (g, c) :=
            if w.escapedBreak then gapAfter 0 { first? := some none } c.next.next
            else gapAfter 0 {} c
          quotedFrom quote fuel (text ++ g.fold) c

/-- The quoted scalar, of at most `fuel` characters, at the cursor on its opening quote. -/
def quotedScalar (fuel : Nat) (quote : Char) (c : Cursor) : Option (Array Char × Cursor) :=
  quotedFrom quote fuel #[] c.next

/-! ## Block scalars -/

/-- What happens to the line breaks at the end of a block. -/
inductive Chomping
  | strip
  | clip
  | keep
  deriving DecidableEq, Repr

/-- The sign for a way of chomping. -/
def chompingOf? : Char → Option Chomping
  | '-' => some .strip
  | '+' => some .keep
  | _ => none

/-- The digit for an indentation. -/
def indentOf? (c : Char) : Option Nat :=
  if '1' ≤ c ∧ c ≤ '9' then some (c.toNat - '0'.toNat) else none

/-- The way of chomping at the cursor, if its sign stands there. -/
def chompingAt (c : Cursor) : Option Chomping × Cursor :=
  match c.head?.bind chompingOf? with
  | some chomping => (some chomping, c.next)
  | none => (none, c)

/-- The indentation at the cursor, zero if its digit does not stand there. -/
def indentAt (c : Cursor) : Nat × Cursor :=
  match c.head?.bind indentOf? with
  | some indent => (indent, c.next)
  | none => (0, c)

/-- The signs behind the one that starts a block: a way of chomping and an indentation. -/
def blockHeader (c : Cursor) : Chomping × Nat × Cursor :=
  let (before?, c) := chompingAt c
  let (indent, c) := indentAt c
  if indent = 0 || before?.isSome then (before?.getD .clip, indent, c)
  else
    let (after?, c) := chompingAt c
    (after?.getD .clip, indent, c)

/-- The empty lines before a line of a block. -/
structure BlankLines where
  breaks : Array Char
  /-- The column that the lines reach. -/
  reach : Nat
  cursor : Cursor

/--
The empty lines that go on with the given characters, in a block that is indented by `indent`, or
by an amount still to be found if `indent` is zero.
-/
def blankLinesFrom (indent : Nat) (breaks : Array Char) (reach line column offset : Nat) :
    List Char → Option BlankLines
  | [] => some ⟨breaks, max reach column, ⟨[], line, column, offset⟩⟩
  | c :: rest =>
    let inIndent : Bool := indent = 0 || column < indent
    let next := offset + c.utf8Size
    if c = ' ' && inIndent then
      blankLinesFrom indent breaks reach line (column + 1) next rest
    else if c = '\t' && inIndent then none
    else if isBreak c then
      blankLinesFrom indent (breaks.push c) (max reach column) (line + 1) 0 next rest
    else some ⟨breaks, max reach column, ⟨c :: rest, line, column, offset⟩⟩

/-- The empty lines at the cursor. -/
def blankLines (indent : Nat) (c : Cursor) : Option BlankLines :=
  blankLinesFrom indent #[] 0 c.line c.column c.offset c.rest

/-- A block that is being read. -/
structure BlockText where
  text : Array Char := #[]
  /-- The break at the end of the last line. -/
  lastBreak? : Option Char := none
  /-- The breaks of the empty lines after it. -/
  breaks : Array Char := #[]
  /-- Whether the last line starts with a space or a tab. -/
  lastIndented : Bool := false

/-- The block with the characters that come before its next line. -/
def BlockText.joined (folded indented : Bool) (b : BlockText) : Array Char :=
  if folded && b.lastBreak? = some '\n' && !b.lastIndented && !indented then
    b.text ++ (if b.breaks.isEmpty then #[' '] else b.breaks)
  else b.text ++ b.lastBreak?.toArray ++ b.breaks

/-- The block with all its further lines; at most `fuel` lines. -/
def blockLines (folded : Bool) (indent : Nat) :
    Nat → BlockText → Cursor → Option (BlockText × Cursor)
  | 0, _, _ => none
  | fuel + 1, b, c =>
    if c.column ≠ indent || c.rest.isEmpty then some (b, c)
    else
      let indented := c.head?.any isGap
      let line := c.rest.takeWhile fun ch => !isBreak ch
      let ending := c.toLineEnd
      match blankLines indent ending.next with
      | none => none
      | some blank =>
        blockLines folded indent fuel
          { text := b.joined folded indented ++ line
            lastBreak? := ending.head?
            breaks := blank.breaks
            lastIndented := indented }
          blank.cursor

/-- The text of a block whose lines have all been read. -/
def BlockText.chomped (chomping : Chomping) (b : BlockText) : Array Char :=
  match chomping with
  | .strip => b.text
  | .clip => b.text ++ b.lastBreak?.toArray
  | .keep => b.text ++ b.lastBreak?.toArray ++ b.breaks

/--
The block at the cursor, which stands on the sign that starts it, of at most `fuel` lines; `outer?`
is the indentation of the collection around it, if there is one.
-/
def blockScalar (fuel : Nat) (folded : Bool) (outer? : Option Nat) (c : Cursor) :
    Option (Array Char × Cursor) := do
  let (chomping, given, c) := blockHeader c.next
  let c ← c.pastComment?
  let fixed := if given = 0 then 0 else outer?.getD 0 + given
  let blank ← blankLines fixed c
  let least := match outer? with
    | some outer => outer + 1
    | none => 1
  let indent := if fixed = 0 then max blank.reach least else fixed
  let (b, c) ← blockLines folded indent fuel { breaks := blank.breaks } blank.cursor
  return (b.chomped chomping, c)

end EntitySlice.Yaml
