import EntitySlice.Yaml.Scalar

/-!
# Tokens of a YAML text

The lexical half of reading YAML: a text is a sequence of marks and scalars. Indentation turns into
tokens too: where a line is further in than the lines before it a collection starts, and where it
is less far in collections end. A key is known to be one only when the colon behind it is reached;
then the tokens for the key, and for the mapping it may start, go in front of it.
-/

namespace EntitySlice.Yaml

open EntitySlice.Number

/-- How a scalar is written. -/
inductive ScalarStyle
  | plain
  | quoted
  | literal
  | folded
  deriving DecidableEq, Repr

/-- A token of a YAML text. -/
inductive Token
  | versionDirective (major minor : Nat)
  | tagDirective (handle start : String)
  | documentStart | documentEnd
  | blockSequenceStart | blockMappingStart | blockEnd
  | flowSequenceStart | flowSequenceEnd | flowMappingStart | flowMappingEnd
  | blockEntry | flowEntry
  | key | value
  | anchor (name : String)
  | alias (name : String)
  | tag (handle suffix : String)
  | scalar (style : ScalarStyle) (text : String)
  deriving DecidableEq, Repr

/-! ## Names, tags and directives -/

/-- The characters of names. -/
def isNameChar (c : Char) : Bool :=
  c.isAlphanum || c = '_' || c = '-'

/-- Whether a name may end here. -/
def nameMayEnd (cs : List Char) : Bool :=
  cs.head?.all fun c => endsWord c || ['?', ':', ',', ']', '\x7d', '%', '@', '\x60'].contains c

/-- The name at the cursor, which stands on the sign before it. -/
def name? (c : Cursor) : Option (String × Cursor) :=
  let c := c.skip 1
  let name := c.rest.takeWhile isNameChar
  let c := c.skipWhile isNameChar
  if name.isEmpty || !nameMayEnd c.rest then none else some (String.ofList name, c)

/-- The characters of a tag, some of them only where the tag is between angle brackets. -/
def isTagChar (wide : Bool) (c : Char) : Bool :=
  isNameChar c || [';', '/', '?', ':', '@', '&', '=', '+', '$', '.', '!', '~', '*', '\'', '(',
    ')'].contains c || (wide && [',', '[', ']'].contains c)

/-- The byte at the cursor, written as `%` and two digits. -/
def escapedByte? (c : Cursor) : Option Nat :=
  match c.rest with
  | '%' :: a :: b :: _ => readDigits? 16 [a, b]
  | _ => none

/-- The number of bytes that go on with a character after its first byte. -/
def furtherBytes? (first : Nat) : Option Nat :=
  if first < 0x80 then some 0
  else if first < 0xC0 then none
  else if first < 0xE0 then some 1
  else if first < 0xF0 then some 2
  else if first < 0xF8 then some 3
  else none

/-- The next bytes at the cursor, each of which goes on with a character. -/
def readFurther : Nat → Cursor → Option (List Nat × Cursor)
  | 0, c => some ([], c)
  | n + 1, c => do
    let byte ← escapedByte? c
    guard (0x80 ≤ byte && byte < 0xC0)
    let (more, c) ← readFurther n (c.skip 3)
    return (byte :: more, c)

/-- The bytes of one character at the cursor. -/
def escapedBytes? (c : Cursor) : Option (List Nat × Cursor) := do
  let first ← escapedByte? c
  let (more, c) ← readFurther (← furtherBytes? first) (c.skip 3)
  return (first :: more, c)

/--
The characters of a tag at the cursor, of which at most `fuel` are written. A byte that is escaped
counts as the character with its number.
-/
def tagText (wide : Bool) : Nat → Cursor → Option (List Char × Cursor)
  | 0, c => some ([], c)
  | fuel + 1, c =>
    match c.head? with
    | none => some ([], c)
    | some ch => do
      if isTagChar wide ch then
        let (text, c) ← tagText wide fuel (c.skip 1)
        return (ch :: text, c)
      else if ch = '%' then
        let (bytes, c) ← escapedBytes? c
        let (text, c) ← tagText wide fuel c
        return (bytes.map Char.ofNat ++ text, c)
      else return ([], c)

/-- The tag characters at the cursor. -/
def tagTextAt (wide : Bool) (c : Cursor) : Option (List Char × Cursor) :=
  tagText wide (c.rest.takeWhile fun ch => !endsWord ch).length c

/-- The handle at the cursor: an exclamation mark, perhaps with a name and another one. -/
def tagHandle? (c : Cursor) : Option (List Char × Cursor) :=
  if c.head? ≠ some '!' then none
  else
    let c := c.skip 1
    let name := c.rest.takeWhile isNameChar
    let c := c.skipWhile isNameChar
    if c.head? = some '!' then some ('!' :: name ++ ['!'], c.skip 1) else some ('!' :: name, c)

/-- The text of a tag or a part of it, which a null character ends. -/
def tagPart (cs : List Char) : String :=
  String.ofList (cs.takeWhile (· ≠ '\x00'))

/-- A tag as a token. -/
def tagToken (handle suffix : List Char) : Token :=
  .tag (tagPart handle) (tagPart suffix)

/-- The tag at the cursor. -/
def tagAt (c : Cursor) : Option (Token × Cursor) :=
  if c.rest.take 2 = ['!', '<'] then
    match tagTextAt true (c.skip 2) with
    | some (suffix, c) =>
      if c.head? = some '>' && !suffix.isEmpty then some (tagToken [] suffix, c.skip 1) else none
    | none => none
  else
    match tagHandle? c with
    | none => none
    | some (handle, c) =>
      match tagTextAt false c with
      | none => none
      | some (text, c) =>
        if 1 < handle.length && handle.getLast? = some '!' then
          if text.isEmpty then none else some (tagToken handle text, c)
        else
          let suffix := handle.tail ++ text
          if (tagPart suffix).isEmpty then some (tagToken [] ['!'], c)
          else some (tagToken ['!'] suffix, c)

/-- The tag at the cursor, if it may end where it does. -/
def tag? (inFlow : Bool) (c : Cursor) : Option (Token × Cursor) :=
  (tagAt c).filter fun (_, c) => atWordEnd c.rest || (inFlow && c.head? = some ',')

/-- The number at the cursor, of at most nine digits. -/
def versionNumber? (c : Cursor) : Option (Nat × Cursor) :=
  let digits := c.rest.takeWhile Char.isDigit
  if 9 < digits.length then none
  else (readDigits? 10 digits).map fun n => (n, c.skipWhile Char.isDigit)

/-- The version that a directive gives. -/
def versionDirective? (c : Cursor) : Option (Token × Cursor) := do
  let (major, c) ← versionNumber? (c.skipWhile isGap)
  guard (c.head? = some '.')
  let (minor, c) ← versionNumber? (c.skip 1)
  return (.versionDirective major minor, c)

/-- The handle of tags that a directive gives. -/
def tagDirective? (c : Cursor) : Option (Token × Cursor) := do
  let (handle, c) ← tagHandle? (c.skipWhile isGap)
  guard (handle.getLast? = some '!')
  guard (c.head?.any isGap)
  let (start, c) ← tagTextAt true (c.skipWhile isGap)
  guard (!start.isEmpty && atWordEnd c.rest)
  return (.tagDirective (tagPart handle) (tagPart start), c)

/-- The directive at the cursor. -/
def directive? (c : Cursor) : Option (Token × Cursor) := do
  let c := c.skip 1
  let name := c.rest.takeWhile isNameChar
  let c := c.skipWhile isNameChar
  guard (atWordEnd c.rest)
  let (token, c) ← match String.ofList name with
    | "YAML" => versionDirective? c
    | "TAG" => tagDirective? c
    | _ => none
  return (token, ← c.pastComment?)

/-! ## Scanning -/

/-- A place where a key may have started. -/
structure PossibleKey where
  /-- The number of tokens before it. -/
  position : Nat
  line : Nat
  column : Nat
  offset : Nat
  /-- Whether nothing but a key can stand there. -/
  required : Bool

/-- What is known about a text up to a cursor. -/
structure Scan where
  cursor : Cursor
  /-- The tokens so far, in order. -/
  tokens : Array Token := #[]
  /-- The columns of the block collections around the cursor, innermost first. -/
  indents : List Nat := []
  /-- Where a key outside of brackets may have started. -/
  blockKey? : Option PossibleKey := none
  /-- For each bracket that is open, innermost first, where a key inside it may have started. -/
  flowKeys : List (Option PossibleKey) := []
  /-- Whether a key may start at the cursor. -/
  keyAllowed : Bool := true

namespace Scan

/-- Whether the cursor is inside brackets. -/
def inFlow (s : Scan) : Bool := !s.flowKeys.isEmpty

/-- The first column that is inside the innermost block collection. -/
def innerColumn (s : Scan) : Nat :=
  match s.indents with
  | [] => 0
  | indent :: _ => indent + 1

/-- The greatest number of bytes of a key. -/
def maxKeyLength : Nat := 1024

/-- Whether a key can no longer be one at the cursor: it has to end in its line. -/
def isStale (c : Cursor) (k : PossibleKey) : Bool :=
  k.line < c.line || k.offset + maxKeyLength < c.offset

/-- The place where a key may have started that goes on up to the cursor. -/
def possibleKey? (s : Scan) : Option PossibleKey :=
  match s.flowKeys with
  | [] => s.blockKey?
  | key? :: _ => key?.filter fun k => !isStale s.cursor k

/-- The scan with another place, or none, where a key may have started. -/
def setKey (key? : Option PossibleKey) (s : Scan) : Scan :=
  match s.flowKeys with
  | [] => { s with blockKey? := key? }
  | _ :: outer => { s with flowKeys := key? :: outer }

/-- The scan with one more token. -/
def push (t : Token) (s : Scan) : Scan := { s with tokens := s.tokens.push t }

/-- The scan with a token after the first `n`. -/
def insertAt (n : Nat) (t : Token) (s : Scan) : Scan :=
  { s with tokens := s.tokens.insertIdxIfInBounds n t }

/-- The scan at a later place. -/
def goTo (c : Cursor) (s : Scan) : Scan := { s with cursor := c }

/-- The scan with one more token of one character. -/
def pushSign (t : Token) (s : Scan) : Scan := (s.push t).goTo s.cursor.next

/-- The scan where a key may start, or may not. -/
def allowKey (allowed : Bool) (s : Scan) : Scan := { s with keyAllowed := allowed }

/-- The scan without a place where a key may have started, unless there must be one. -/
def forgetKey (s : Scan) : Option Scan :=
  if s.possibleKey?.any (·.required) then none else some (s.setKey none)

/-- The scan with the cursor as a place where a key may have started. -/
def noteKey (s : Scan) : Option Scan :=
  if !s.keyAllowed then some s
  else
    s.forgetKey.map fun s => s.setKey <| some
      { position := s.tokens.size, line := s.cursor.line, column := s.cursor.column
        offset := s.cursor.offset
        required := !s.inFlow && s.indents.head? = some s.cursor.column }

/-- The scan without a place outside of brackets where a key can no longer have started. -/
def dropStale (s : Scan) : Option Scan :=
  match s.blockKey?.filter (isStale s.cursor) with
  | none => some s
  | some k => if k.required then none else some { s with blockKey? := none }

/-- The scan with all block collections ended that the column is not inside of. -/
def endBlocks (column : Nat) (s : Scan) : Scan :=
  if s.inFlow then s
  else
    let ended := s.indents.takeWhile (column < ·)
    { s with
      tokens := s.tokens ++ ended.map (fun _ => Token.blockEnd)
      indents := s.indents.drop ended.length }

/-- The scan with all block collections ended. -/
def endAllBlocks (s : Scan) : Scan :=
  if s.inFlow then s
  else { s with tokens := s.tokens ++ s.indents.map (fun _ => Token.blockEnd), indents := [] }

/-- The scan with a block collection started before token `n`, if the column is further in. -/
def startBlock (column n : Nat) (t : Token) (s : Scan) : Scan :=
  if s.inFlow || column < s.innerColumn then s
  else { s.insertAt n t with indents := column :: s.indents }

/-- Whether spaces may be skipped, and whether tabs may be too. -/
def skips (s : Scan) (c : Char) : Bool :=
  c = ' ' || (c = '\t' && (s.inFlow || !s.keyAllowed))

/--
The scan at the next token; at most `fuel` lines are skipped. A byte order mark may start any line
and takes up its first column.
-/
def toToken : Nat → Scan → Scan
  | 0, s => s
  | fuel + 1, s =>
    let c := s.cursor.pastMark.skipWhile s.skips
    let c := if c.head? = some '#' then c.toLineEnd else c
    if c.head?.any isBreak then toToken fuel ((s.goTo c.next).allowKey (s.keyAllowed || !s.inFlow))
    else s.goTo c

/-! ## Tokens at the cursor -/

/-- The scan behind the start of a collection in brackets. -/
def openFlow (t : Token) (s : Scan) : Option Scan :=
  s.noteKey.map fun s => ({ s with flowKeys := none :: s.flowKeys }.allowKey true).pushSign t

/-- The scan behind the end of a collection in brackets. -/
def closeFlow (t : Token) (s : Scan) : Option Scan :=
  s.forgetKey.map fun s => ({ s with flowKeys := s.flowKeys.tail }.allowKey false).pushSign t

/-- The scan behind a comma. -/
def flowEntry (s : Scan) : Option Scan :=
  s.forgetKey.map fun s => (s.allowKey true).pushSign .flowEntry

/-- The scan with a block collection started at the cursor, where one may start. -/
def startBlockHere (t : Token) (s : Scan) : Option Scan :=
  if s.inFlow then some s
  else if s.keyAllowed then some (s.startBlock s.cursor.column s.tokens.size t)
  else none

/-- The scan behind the sign of an item. -/
def blockEntry (s : Scan) : Option Scan := do
  let s ← (← s.startBlockHere .blockSequenceStart).forgetKey
  return (s.allowKey true).pushSign .blockEntry

/-- The scan behind the sign of a key. -/
def keySign (s : Scan) : Option Scan := do
  let s ← (← s.startBlockHere .blockMappingStart).forgetKey
  return (s.allowKey (!s.inFlow)).pushSign .key

/-- The scan behind a colon. -/
def valueSign (s : Scan) : Option Scan :=
  match s.possibleKey? with
  | some k =>
    let s := (s.insertAt k.position .key).startBlock k.column k.position .blockMappingStart
    some (((s.setKey none).allowKey false).pushSign .value)
  | none =>
    (s.startBlockHere .blockMappingStart).map fun s =>
      (s.allowKey (!s.inFlow)).pushSign .value

/-- The scan behind a token that may start a key. -/
def word (s : Scan) (read : Cursor → Option (Token × Cursor)) : Option Scan := do
  let s ← s.noteKey
  let (t, c) ← read s.cursor
  return ((s.push t).goTo c).allowKey false

/-- The scalar with a text as a token. -/
def scalarToken (style : ScalarStyle) (text : Array Char) : Token :=
  .scalar style (String.ofList text.toList)

/-- The scan behind a quoted scalar. -/
def quoted (fuel : Nat) (quote : Char) (s : Scan) : Option Scan :=
  s.word fun c =>
    (quotedScalar fuel quote c).map fun (text, c) => (scalarToken .quoted text, c)

/-- The scan behind a plain scalar; after a line break a key may start. -/
def plain (fuel : Nat) (s : Scan) : Option Scan := do
  let s ← s.noteKey
  let (text, broken, c) ← plainScalar fuel s.inFlow s.innerColumn s.cursor
  return ((s.push (scalarToken .plain text)).goTo c).allowKey broken

/-- The scan behind a block scalar. -/
def block (fuel : Nat) (style : ScalarStyle) (s : Scan) : Option Scan := do
  let s ← s.forgetKey
  let (text, c) ← blockScalar fuel (style = .folded) s.indents.head? s.cursor
  return ((s.push (scalarToken style text)).goTo c).allowKey true

/-- The scan behind the sign that starts or ends a document. -/
def documentMark (t : Token) (s : Scan) : Option Scan :=
  s.endAllBlocks.forgetKey.map fun s => ((s.push t).goTo (s.cursor.skip 3)).allowKey false

/-- The scan behind a directive. -/
def directive (s : Scan) : Option Scan := do
  let s ← s.endAllBlocks.forgetKey
  let (t, c) ← directive? s.cursor
  return ((s.push t).goTo c).allowKey false

/-- The signs that no plain scalar starts with. -/
def indicators : List Char :=
  ['-', '?', ':', ',', '[', ']', '\x7b', '\x7d', '#', '&', '*', '!', '|', '>', '\'', '"', '%', '@',
    '\x60']

/-- Whether a plain scalar may start with a character, given what follows it. -/
def startsPlain (inFlow : Bool) (c : Char) (rest : List Char) : Bool :=
  !(endsWord c || indicators.contains c)
    || (c = '-' && !rest.head?.any isGap)
    || (!inFlow && (c = '?' || c = ':') && !atWordEnd rest)

/--
The scan behind the token that starts with `c`, at the cursor; a scalar has at most `fuel`
characters.
-/
def token (fuel : Nat) (s : Scan) (c : Char) (rest : List Char) : Option Scan :=
  let lone := atWordEnd rest
  if c = '%' && s.cursor.column = 0 then s.directive
  else if s.cursor.atMark '-' then s.documentMark .documentStart
  else if s.cursor.atMark '.' then s.documentMark .documentEnd
  else if c = '[' then s.openFlow .flowSequenceStart
  else if c = '\x7b' then s.openFlow .flowMappingStart
  else if c = ']' then s.closeFlow .flowSequenceEnd
  else if c = '\x7d' then s.closeFlow .flowMappingEnd
  else if c = ',' then s.flowEntry
  else if c = '-' && lone then s.blockEntry
  else if c = '?' && (s.inFlow || lone) then s.keySign
  else if c = ':' && (s.inFlow || lone) then s.valueSign
  else if c = '*' then s.word fun c => (name? c).map fun (n, c) => (.alias n, c)
  else if c = '&' then s.word fun c => (name? c).map fun (n, c) => (.anchor n, c)
  else if c = '!' then s.word (tag? s.inFlow)
  else if c = '|' && !s.inFlow then s.block fuel .literal
  else if c = '>' && !s.inFlow then s.block fuel .folded
  else if c = '\'' || c = '"' then s.quoted fuel c
  else if startsPlain s.inFlow c rest then s.plain fuel
  else none

/-- The tokens of the whole text; at most `fuel` more of them start at or behind the cursor. -/
def run : Nat → Scan → Option (Array Token)
  | 0, _ => none
  | fuel + 1, s => do
    let s ← (s.toToken (fuel + 1)).dropStale
    match s.cursor.rest with
    | [] => return (← s.endAllBlocks.forgetKey).tokens
    | c :: rest => run fuel (← (s.endBlocks s.cursor.column).token (fuel + 1) c rest)

end Scan

/-- The tokens of a YAML text. -/
def scan (text : String) : Option (List Token) :=
  let cs := text.toList
  if cs.all isAllowed then
    let cs := normalBreaks cs
    (Scan.run (cs.length + 1) { cursor := { rest := cs } }).map Array.toList
  else none

end EntitySlice.Yaml
