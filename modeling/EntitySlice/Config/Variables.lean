import EntitySlice.Config.Basic
import EntitySlice.Text.AlphanumericTable
import EntitySlice.Text.Blank

/-!
# Files of variables

A file of variables has a line `name=value` for each of them; blank lines and lines that start with
a number sign say nothing. A value may have parts in quotes, and it may name other variables after a
dollar sign. Variables that an environment has already stay as they are, and the first line that
cannot be read ends the file. `readValue?` walks over a value once and keeps a `ValueState`.
-/

namespace EntitySlice

open EntitySlice.Text

/-! ## Names -/

/-- A letter of ASCII or an underscore, which a name starts with. -/
def isVariableStart (c : Char) : Bool :=
  c.isAlpha || c = '_'

/-- A character of a name after the first. -/
def isVariablePart (c : Char) : Bool :=
  c.isAlphanum || c = '_' || c = '.'

/-- The name that a text starts with, and the text after it and after blanks. -/
def readVariable? (cs : List Char) : Option (String × List Char) :=
  if cs.head?.any isVariableStart then
    some (String.ofList (cs.takeWhile isVariablePart),
      (cs.dropWhile isVariablePart).dropWhile isBlank)
  else none

/-- The text after an equals sign. -/
def afterEquals? : List Char → Option (List Char)
  | '=' :: rest => some rest
  | _ => none

/-! ## Values -/

/-- The quotes around a part of a value. -/
inductive Quotes
  | none | single | double
  deriving DecidableEq, Repr

/-- What the characters read so far say about the next one. -/
inductive ValueState
  /-- The next character belongs to the value. -/
  | inside (q : Quotes)
  /-- A backslash stands before it. -/
  | escaped (q : Quotes)
  /-- It may go on with the name of a variable. -/
  | name (q : Quotes) (read : List Char)
  /-- It goes on with the name of a variable in braces, or ends it. -/
  | braced (q : Quotes) (read : List Char)
  /-- The value has ended; blanks may follow, and a comment. -/
  | ended

/-- The character that is meant by a backslash and the character after it. -/
def escapedChar? (c : Char) : Option Char :=
  if c = 'n' then some '\n'
  else if ['\\', '\'', '"', '$', ' '].contains c then some c
  else none

/-- The entries of an environment, each a name and a value with an equals sign between them. -/
def Environment.entries (env : Environment) : List (List Char) :=
  env.map fun (name, value) => name.toList ++ '=' :: value.toList

/--
What a name in a value stands for: the text behind the name and an equals sign in the first entry
that starts so, nothing if there is none. A name with an equals sign in it reaches into the value
of another variable: where `A` has the value `B=c`, the name `A=B` stands for `c`.
-/
def valueOf (env : Environment) (name : List Char) : List Char :=
  if name.isEmpty then []
  else
    let start := name ++ ['=']
    match env.entries.find? start.isPrefixOf with
    | some found => found.drop start.length
    | none => []

/-- A character of a value outside of names: what it adds to the value, and the state after it. -/
def stepInside (q : Quotes) (c : Char) : List Char × ValueState :=
  match q with
  | .single => if c = '\'' then ([], .inside .none) else ([c], .inside .single)
  | .double =>
    if c = '$' then ([], .name .double [])
    else if c = '"' then ([], .inside .none)
    else if c = '\\' then ([], .escaped .double)
    else ([c], .inside .double)
  | .none =>
    if c = '$' then ([], .name .none [])
    else if c = '\'' then ([], .inside .single)
    else if c = '"' then ([], .inside .double)
    else if c = '\\' then ([], .escaped .none)
    else if c = ' ' || c = '\t' then ([], .ended)
    else ([c], .inside .none)

/--
A character after a dollar sign and the start of a name. Letters and digits of any script go on with
the name; any other character ends it and stands for itself.
-/
def stepName (env : Environment) (q : Quotes) (read : List Char) (c : Char) :
    List Char × ValueState :=
  if isAlphanumeric c then ([], .name q (read ++ [c]))
  else if c = '\x7b' && read.isEmpty then ([], .braced q [])
  else if c = '$' then (valueOf env read, .name q [])
  else (valueOf env read ++ [c], .inside q)

/-- One character of a value: what it adds to the value and the state after it. -/
def stepValue? (env : Environment) : ValueState → Char → Option (List Char × ValueState)
  | .inside q, c => some (stepInside q c)
  | .escaped q, c => (escapedChar? c).map fun d => ([d], .inside q)
  | .name q read, c => some (stepName env q read c)
  | .braced q read, c =>
    some (if c = '\x7d' then (valueOf env read, .inside q) else ([], .braced q (read ++ [c])))
  | .ended, c => if c = ' ' || c = '\t' then some ([], .ended) else none

/-- What the end of the line adds to a value; it must not stand in quotes or braces. -/
def endValue? (env : Environment) : ValueState → Option (List Char)
  | .inside .none | .escaped .none | .ended => some []
  | .name .none read => some (valueOf env read)
  | _ => none

/-- The value that the rest of a line stands for. -/
def readValue? (env : Environment) : ValueState → List Char → Option (List Char)
  | state, [] => endValue? env state
  | .ended, '#' :: _ => some []
  | state, c :: rest => do
    let (added, next) ← stepValue? env state c
    return added ++ (← readValue? env next rest)

/-! ## Lines -/

/-- The value after an equals sign and blanks; a comment may stand in its place. -/
def readAssigned? (env : Environment) (cs : List Char) : Option String :=
  match cs.dropWhile isBlank with
  | [] | '#' :: _ => some ""
  | value => (readValue? env (.inside .none) value).map String.ofList

/-- The name at the start of a line and the text after its equals sign; `export` may go before. -/
def readName? (cs : List Char) : Option (String × List Char) := do
  let (name, rest) ← readVariable? cs
  match afterEquals? rest with
  | some value => return (name, value)
  | none =>
    guard (name = "export")
    let (name, rest) ← readVariable? rest
    return (name, ← afterEquals? rest)

/-- The variable of a line with its value. -/
def readAssignment? (env : Environment) (cs : List Char) : Option (String × String) := do
  let (name, value) ← readName? cs
  return (name, ← readAssigned? env value)

/-- The lines of a text, each without the blanks at its ends. -/
def trimmedLines (text : String) : List (List Char) :=
  (text.toList.splitOn '\n').map trimChars

/-! ## The names in a file -/

/-- The name after a dollar sign, which may be in braces. -/
def nameAfterDollar : List Char → List Char
  | '\x7b' :: rest => rest.takeWhile (· ≠ '\x7d')
  | rest => rest.takeWhile isAlphanumeric

/-- The names after the dollar signs of a text. -/
def namesAfterDollars : List Char → List String
  | [] => []
  | c :: rest =>
    if c = '$' then String.ofList (nameAfterDollar rest) :: namesAfterDollars rest
    else namesAfterDollars rest

/-- The names of the variables that a file of variables gives or asks for. -/
def variableNames (text : String) : List String :=
  (trimmedLines text).filterMap (fun line => (readName? line).map (·.1))
    ++ namesAfterDollars text.toList

namespace Environment

/-- The environment with a variable, unless it has one of that name. -/
def addNew (env : Environment) (name value : String) : Environment :=
  if (env.lookup name).isSome then env else env ++ [(name, value)]

/-- The environment after a line; nothing if the line cannot be read. -/
def addLine? (env : Environment) (line : List Char) : Option Environment :=
  match line with
  | [] | '#' :: _ => some env
  | _ => (readAssignment? env line).map fun (name, value) => env.addNew name value

/-- The environment with the variables of lines, up to the first that cannot be read. -/
def addLines (env : Environment) : List (List Char) → Environment
  | [] => env
  | line :: rest =>
    match env.addLine? line with
    | some env => addLines env rest
    | none => env

/-- The environment with the variables of a file in addition. -/
def addFile (env : Environment) (text : String) : Environment :=
  env.addLines (trimmedLines text)

end Environment

end EntitySlice
