import EntitySlice.Json.Value
import EntitySlice.Number.Whole

/-!
# JSON text

How values are written. The compact form has no space at all; the indented form puts every item
and member on a line of its own, two spaces deeper than its container. Strings escape what JSON
requires and nothing else. A number with a fraction or beyond 64 bits is written with the shortest
digits that identify it.
-/

namespace EntitySlice.Json

open EntitySlice.Number

/-- A digit of a `\u` escape. -/
def hexDigit (n : Nat) : Char :=
  Nat.digitChar n

/-- One character inside a JSON string. -/
def escapeChar (c : Char) : List Char :=
  if c = '"' then ['\\', '"']
  else if c = '\\' then ['\\', '\\']
  else if c = '\n' then ['\\', 'n']
  else if c = '\r' then ['\\', 'r']
  else if c = '\t' then ['\\', 't']
  else if c = '\x08' then ['\\', 'b']
  else if c = '\x0c' then ['\\', 'f']
  else if c.toNat < 0x20 then
    ['\\', 'u', '0', '0', hexDigit (c.toNat / 16), hexDigit (c.toNat % 16)]
  else [c]

/-- A string with its quotes, and `rest` behind it. -/
def stringBefore (s : String) (rest : List Char) : List Char :=
  '"' :: (s.toList.flatMap escapeChar ++ '"' :: rest)

/--
A floating-point number: plain from `0.00001` to `9999999999999999.0`, else with an exponent. A
number halfway between two shortest numerals gets the one with an even last digit.
-/
def floatChars (x : Finite64) : List Char :=
  let d := x.shortest .toEven
  x.signChars ++
    (if d.coefficient = 0 then ['0', '.', '0']
     else if -5 ≤ d.leadingExponent ∧ d.leadingExponent ≤ 15 then d.positional true
     else d.scientific)

/-- A number as JSON text. -/
def Number.chars : Number → List Char
  | .integer n => intChars n
  | .float x => floatChars x

mutual

/-- The value as JSON text without spaces, and `rest` behind it. -/
def Value.compactBefore : Value → (rest : List Char) → List Char
  | .null, rest => 'n' :: 'u' :: 'l' :: 'l' :: rest
  | .bool true, rest => 't' :: 'r' :: 'u' :: 'e' :: rest
  | .bool false, rest => 'f' :: 'a' :: 'l' :: 's' :: 'e' :: rest
  | .number n, rest => n.chars ++ rest
  | .string s, rest => stringBefore s rest
  | .array items, rest => '[' :: compactItems items (']' :: rest)
  | .object members, rest => '\x7b' :: compactMembers members ('\x7d' :: rest)

/-- The items of an array, with commas between them. -/
def compactItems : List Value → (rest : List Char) → List Char
  | [], rest => rest
  | [v], rest => v.compactBefore rest
  | v :: w :: more, rest => v.compactBefore (',' :: compactItems (w :: more) rest)

/-- The members of an object, with commas between them. -/
def compactMembers : List (String × Value) → (rest : List Char) → List Char
  | [], rest => rest
  | [(k, v)], rest => stringBefore k (':' :: v.compactBefore rest)
  | (k, v) :: m :: more, rest =>
    stringBefore k (':' :: v.compactBefore (',' :: compactMembers (m :: more) rest))

end

/-- The value as JSON text without spaces. -/
def Value.compact (v : Value) : String :=
  String.ofList (v.compactBefore [])

/-- A line break and the indentation of a line at the given depth, and `rest` behind it. -/
def newLine (depth : Nat) (rest : List Char) : List Char :=
  '\n' :: (List.replicate (2 * depth) ' ' ++ rest)

mutual

/--
The value as JSON text over several lines, and `rest` behind it; `depth` is the depth of the line it
starts on.
-/
def Value.indentedBefore (depth : Nat) : Value → (rest : List Char) → List Char
  | .null, rest => 'n' :: 'u' :: 'l' :: 'l' :: rest
  | .bool true, rest => 't' :: 'r' :: 'u' :: 'e' :: rest
  | .bool false, rest => 'f' :: 'a' :: 'l' :: 's' :: 'e' :: rest
  | .number n, rest => n.chars ++ rest
  | .string s, rest => stringBefore s rest
  | .array [], rest => '[' :: ']' :: rest
  | .array (v :: more), rest =>
    '[' :: indentedItems (depth + 1) (v :: more) (newLine depth (']' :: rest))
  | .object [], rest => '\x7b' :: '\x7d' :: rest
  | .object (m :: more), rest =>
    '\x7b' :: indentedMembers (depth + 1) (m :: more) (newLine depth ('\x7d' :: rest))

/-- The items of an array, each on a line of its own. -/
def indentedItems (depth : Nat) : List Value → (rest : List Char) → List Char
  | [], rest => rest
  | [v], rest => newLine depth (v.indentedBefore depth rest)
  | v :: w :: more, rest =>
    newLine depth (v.indentedBefore depth (',' :: indentedItems depth (w :: more) rest))

/-- The members of an object, each on a line of its own. -/
def indentedMembers (depth : Nat) : List (String × Value) → (rest : List Char) → List Char
  | [], rest => rest
  | [(k, v)], rest => newLine depth (stringBefore k (':' :: ' ' :: v.indentedBefore depth rest))
  | (k, v) :: m :: more, rest =>
    newLine depth (stringBefore k (':' :: ' ' :: v.indentedBefore depth
      (',' :: indentedMembers depth (m :: more) rest)))

end

/-- The value as JSON text over several lines. -/
def Value.indented (v : Value) : String :=
  String.ofList (v.indentedBefore 0 [])

end EntitySlice.Json
