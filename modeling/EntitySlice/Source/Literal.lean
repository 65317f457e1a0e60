import EntitySlice.Text.Words

/-!
# Names and literals in generated code

How a text from a schema gets into source code: as an identifier where it is one, else inside a
string literal between single quotes. `readLiteral?` and `readKey?` are the other direction, what a
compiler makes of the text; reading undoes writing whatever follows (`readLiteral?_literalChars`).
-/

namespace EntitySlice.Source

open EntitySlice.Text

/-! ## Identifiers -/

/-- The characters that an identifier may start with. -/
def isIdentifierStart (c : Char) : Bool :=
  c.isAlpha || c = '_' || c = '$'

/-- The characters that an identifier may go on with. -/
def isIdentifierPart (c : Char) : Bool :=
  c.isAlphanum || c = '_' || c = '$'

/-- Whether the characters are an identifier of ASCII letters, digits, `_` and `$`. -/
def isIdentifierChars : List Char → Bool
  | [] => false
  | c :: rest => isIdentifierStart c && rest.all isIdentifierPart

/-- Whether the text is an identifier of ASCII letters, digits, `_` and `$`. -/
def isIdentifier (s : String) : Bool :=
  isIdentifierChars s.toList

/--
The characters of `cs` in Pascal case that a name may go on with, behind a letter if a digit comes
first.
-/
def namePartChars (cs : List Char) : List Char :=
  match (pascalChars cs).filter fun c => c.isAlphanum || c = '_' with
  | [] => ['F', 'i', 'e', 'l', 'd']
  | c :: rest => if c.isDigit then 'F' :: c :: rest else c :: rest

/-- The part of generated names that stands for `name`, in Pascal case. -/
def namePart (name : String) : String :=
  String.ofList (namePartChars name.toList)

/-! ## String literals -/

/-- One character of a literal. -/
def escapeChar (c : Char) : List Char :=
  if c = '\\' then ['\\', '\\']
  else if c = '\'' then ['\\', '\'']
  else if c = '\n' then ['\\', 'n']
  else if c = '\r' then ['\\', 'r']
  else if c = '\t' then ['\\', 't']
  else [c]

/-- The inside of a literal. -/
def escapeChars (cs : List Char) : List Char :=
  cs.flatMap escapeChar

/-- A literal with its quotes. -/
def literalChars (cs : List Char) : List Char :=
  '\'' :: escapeChars cs ++ ['\'']

/-- The inside of the literal for `s`. -/
def escaped (s : String) : String :=
  String.ofList (escapeChars s.toList)

/-- The literal for `s`. -/
def literal (s : String) : String :=
  String.ofList (literalChars s.toList)

/-- The character that a letter after a backslash stands for. -/
def unescape? (c : Char) : Option Char :=
  if c = '\\' then some '\\'
  else if c = '\'' then some '\''
  else if c = 'n' then some '\n'
  else if c = 'r' then some '\r'
  else if c = 't' then some '\t'
  else none

/-- The text up to the closing quote of a literal, and what follows the quote. -/
def readInside? : List Char → Option (List Char × List Char)
  | [] => none
  | '\'' :: rest => some ([], rest)
  | '\\' :: e :: rest =>
    match unescape? e with
    | some c => (readInside? rest).map (Prod.map (c :: ·) id)
    | none => none
  | c :: rest =>
    if c = '\\' || c = '\n' || c = '\r' then none else (readInside? rest).map (Prod.map (c :: ·) id)

/-- The text of the literal that comes first, and what follows it. -/
def readLiteral? : List Char → Option (List Char × List Char)
  | '\'' :: rest => readInside? rest
  | _ => none

theorem readInside?_escapeChars (cs rest : List Char) :
    readInside? (escapeChars cs ++ '\'' :: rest) = some (cs, rest) := by
  induction cs with
  | nil => rfl
  | cons c cs ih =>
    simp only [escapeChars, List.flatMap_cons, List.append_assoc] at ih ⊢
    by_cases h1 : c = '\\'
    · subst h1; simp [escapeChar, readInside?, unescape?, ih, Prod.map]
    by_cases h2 : c = '\''
    · subst h2; simp [escapeChar, readInside?, unescape?, ih, Prod.map]
    by_cases h3 : c = '\n'
    · subst h3; simp [escapeChar, readInside?, unescape?, ih, Prod.map]
    by_cases h4 : c = '\r'
    · subst h4; simp [escapeChar, readInside?, unescape?, ih, Prod.map]
    by_cases h5 : c = '\t'
    · subst h5; simp [escapeChar, readInside?, unescape?, ih, Prod.map]
    · simp [escapeChar, readInside?, h1, h2, h3, h4, h5, ih, Prod.map]

/-- Reading a literal gives the text it was written for and leaves what follows. -/
theorem readLiteral?_literalChars (cs rest : List Char) :
    readLiteral? (literalChars cs ++ rest) = some (cs, rest) := by
  simp [literalChars, readLiteral?, readInside?_escapeChars]

/-! ## Keys and members -/

/-- The key for `name` in an object or interface: bare if it is an identifier, else a literal. -/
def propertyKey (name : String) : String :=
  if isIdentifier name then name else literal name

/-- The member `name` of the value of `object`. -/
def member (object name : String) : String :=
  if isIdentifier name then object ++ "." ++ name else object ++ "[" ++ literal name ++ "]"

/-- The name that a key stands for: the key itself, or the text of the literal it is. -/
def readKey? (cs : List Char) : Option (List Char) :=
  if isIdentifierChars cs then some cs
  else
    match readLiteral? cs with
    | some (name, []) => some name
    | _ => none

/-- An array of string literals. -/
def literalList (items : List String) : String :=
  "[" ++ ", ".intercalate (items.map literal) ++ "]"

end EntitySlice.Source
