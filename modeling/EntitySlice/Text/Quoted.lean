import EntitySlice.Text.HiddenTable

/-!
# Quoting a text in a message

A message that shows a text to a reader puts it in double quotes and writes by number whatever the
reader could not see: controls, marks without a letter, letters without a shape, characters that
are not assigned.
-/

namespace EntitySlice.Text

/-- A number in hexadecimal digits, small letters. -/
def hexDigits (n : Nat) : List Char :=
  Nat.toDigits 16 n

/-- Whether a reader could not see the character on its own. -/
def isHidden (c : Char) : Bool :=
  HiddenTable.hidden.has c || HiddenTable.fillers.has c || HiddenTable.combining.has c

/-- One character of a quoted text. -/
def quotedChar (c : Char) : List Char :=
  if c = '"' then ['\\', '"']
  else if c = '\\' then ['\\', '\\']
  else if c = '\n' then ['\\', 'n']
  else if c = '\r' then ['\\', 'r']
  else if c = '\t' then ['\\', 't']
  else if c = '\x00' then ['\\', '0']
  else if isHidden c then
    ['\\', 'u', '\x7b'] ++ hexDigits c.toNat ++ ['\x7d']
  else [c]

/-- A text in double quotes, with every character visible. -/
def quoted (s : String) : String :=
  String.ofList ('"' :: s.toList.flatMap quotedChar ++ ['"'])

end EntitySlice.Text
