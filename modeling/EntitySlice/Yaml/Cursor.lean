import EntitySlice.Number.Whole

/-!
# Places in a YAML text

Columns decide about the structure of a YAML text, so a reader has to know where it stands. A
cursor is the rest of the text with its line and column. Columns count characters; the offset, by
which the length of a key is measured, counts bytes. Line breaks are brought to one form before
reading starts; only the separators for lines and paragraphs stay what they are.
-/

namespace EntitySlice.Yaml

/-- Whether the character may stand in a YAML text. -/
def isAllowed (c : Char) : Bool :=
  let n := c.toNat
  n = 0x09 || n = 0x0A || n = 0x0D || (0x20 ≤ n && n ≤ 0x7E) || n = 0x85
    || (0xA0 ≤ n && n ≤ 0xD7FF) || (0xE000 ≤ n && n ≤ 0xFFFD) || 0x10000 ≤ n

/-- The text with a line feed for every line break that is not a separator of its own. -/
def normalBreaks : List Char → List Char
  | [] => []
  | '\r' :: '\n' :: rest => '\n' :: normalBreaks rest
  | c :: rest => (if c = '\r' || c = '\x85' then '\n' else c) :: normalBreaks rest

/-- Whether the character ends a line. -/
def isBreak (c : Char) : Bool :=
  c = '\n' || c = '\u2028' || c = '\u2029'

/-- Whether the character is a space or a tab. -/
def isGap (c : Char) : Bool :=
  c = ' ' || c = '\t'

/-- Whether the character cannot stand inside a word. -/
def endsWord (c : Char) : Bool :=
  isGap c || isBreak c

/-- Whether no word goes on here. -/
def atWordEnd (cs : List Char) : Bool :=
  cs.head?.all endsWord

/-- Whether no line goes on here. -/
def atLineEnd (cs : List Char) : Bool :=
  cs.head?.all isBreak

/-- The number of bytes of a text. -/
def byteCount : List Char → Nat
  | [] => 0
  | c :: rest => c.utf8Size + byteCount rest

/-- The rest of a text with the place where it starts. -/
structure Cursor where
  rest : List Char
  line : Nat := 0
  column : Nat := 0
  /-- The number of bytes before the rest. -/
  offset : Nat := 0

namespace Cursor

/-- The character at the cursor. -/
def head? (c : Cursor) : Option Char := c.rest.head?

/-- The cursor moved over one character. -/
def next (c : Cursor) : Cursor :=
  match c.rest with
  | [] => c
  | ch :: rest =>
    if isBreak ch then ⟨rest, c.line + 1, 0, c.offset + ch.utf8Size⟩
    else ⟨rest, c.line, c.column + 1, c.offset + ch.utf8Size⟩

/-- The cursor behind characters of its line; `rest` is what follows them. -/
def past (c : Cursor) (passed rest : List Char) : Cursor :=
  ⟨rest, c.line, c.column + passed.length, c.offset + byteCount passed⟩

/-- The cursor moved over `n` characters of its line. -/
def skip (c : Cursor) (n : Nat) : Cursor := c.past (c.rest.take n) (c.rest.drop n)

/-- The cursor moved over characters of its line that have a property. -/
def skipWhile (p : Char → Bool) (c : Cursor) : Cursor :=
  c.past (c.rest.takeWhile p) (c.rest.dropWhile p)

/-- The cursor behind a byte order mark, if one starts the line. -/
def pastMark (c : Cursor) : Cursor :=
  if c.column = 0 && c.head? = some '\ufeff' then c.next else c

/-- The cursor moved to the end of its line. -/
def toLineEnd (c : Cursor) : Cursor := c.skipWhile fun ch => !isBreak ch

/-- Whether three equal characters stand at the start of the line as a word. -/
def atMark (ch : Char) (c : Cursor) : Bool :=
  c.column = 0 && c.rest.take 3 = [ch, ch, ch] && atWordEnd (c.rest.drop 3)

/-- Whether the line starts or ends a document. -/
def atDocumentMark (c : Cursor) : Bool := c.atMark '-' || c.atMark '.'

/-- The cursor at the end of the line but for spaces and a comment, if nothing else follows. -/
def pastComment? (c : Cursor) : Option Cursor :=
  let c := c.skipWhile isGap
  let c := if c.head? = some '#' then c.toLineEnd else c
  if atLineEnd c.rest then some c.next else none

end Cursor

end EntitySlice.Yaml
