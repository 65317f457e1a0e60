import EntitySlice.Config.Basic

/-!
# Words of a command line and settings

A word of a command line either names an option, in one of four forms, or stands for itself. The
options of this program are settings: each takes one value, in the same word or in the next one. A
reading of settings goes from left to right and stops where something other than a setting stands.
-/

namespace EntitySlice

/-! ## Words -/

/-- What a word of a command line is. -/
inductive Word
  /-- Two hyphens alone: no option stands after them. -/
  | endOfOptions
  /-- Two hyphens and a name, and a value after an equals sign. -/
  | long (name : String) (value? : Option String)
  /-- A hyphen and a letter, and a value right after it. -/
  | short (letter : Char) (value? : Option String)
  /-- Anything else. -/
  | plain
  deriving DecidableEq, Repr

/-- The value in a word, which may follow an equals sign or the letter itself. -/
def attachedValue? : List Char → Option String
  | [] => none
  | '=' :: rest | rest => some (String.ofList rest)

/-- What a word is by its characters. -/
def Word.ofChars : List Char → Word
  | ['-', '-'] => .endOfOptions
  | '-' :: '-' :: rest =>
    .long (String.ofList (rest.takeWhile (· ≠ '='))) (attachedValue? (rest.dropWhile (· ≠ '=')))
  | '-' :: letter :: rest => .short letter (attachedValue? rest)
  | _ => .plain

/-- What a word is. -/
def Word.ofText (s : String) : Word := .ofChars s.toList

/-! ## Settings -/

/-- The options that take a value. -/
inductive Setting
  | config | schema | root | host | port
  deriving DecidableEq, Repr

namespace Setting

/-- The name of a setting after two hyphens. -/
def name : Setting → String
  | .config => "config"
  | .schema => "schema"
  | .root => "root"
  | .host => "host"
  | .port => "port"

/-- The letter of a setting after one hyphen. -/
def letter? : Setting → Option Char
  | .config => some 'c'
  | .schema => some 's'
  | .root => some 'r'
  | .host => none
  | .port => some 'p'

/-- The port that the value of a setting stands for; zero may have a minus sign too. -/
def portOfValue? (value : String) : Option Nat :=
  match value.toList with
  | '-' :: digits => (portOfDigits? 10 digits).filter (· = 0)
  | _ => readPort? value

/-- Whether the setting can have the value: a path has a text, and a port is a number. -/
def admits (s : Setting) (value : String) : Bool :=
  match s with
  | .config | .schema | .root => value ≠ ""
  | .host => true
  | .port => (portOfValue? value).isSome

end Setting

/-- Why a command line means nothing. -/
inductive UsageFault
  | noCommand
  | unexpected (word : String)
  | noValue (s : Setting)
  | badValue (s : Setting) (value : String)
  | repeated (s : Setting)
  | missing (s : Setting)
  deriving DecidableEq, Repr

/-- The fault in words. -/
def UsageFault.message : UsageFault → String
  | .noCommand => "a command is needed"
  | .unexpected word => s!"'{word}' is not expected here"
  | .noValue s => s!"--{s.name} needs a value"
  | .badValue s value => s!"'{value}' is no value for --{s.name}"
  | .repeated s => s!"--{s.name} is given twice"
  | .missing s => s!"--{s.name} is needed"

/-- Settings with their values. -/
abbrev Settings := List (Setting × String)

/-- The settings with one more, which must be new and have a value that it admits. -/
def Settings.add (given : Settings) (s : Setting) (value : String) : Except UsageFault Settings :=
  if (given.lookup s).isSome then .error (.repeated s)
  else if s.admits value then .ok (given ++ [(s, value)])
  else .error (.badValue s value)

/-- The setting that a word names, with the value in the word, if it is one of `allowed`. -/
def namedSetting? (allowed : List Setting) (w : Word) : Option (Setting × Option String) :=
  match w with
  | .long name value? => (allowed.find? fun s => s.name = name).map (·, value?)
  | .short letter value? => (allowed.find? fun s => s.letter? = some letter).map (·, value?)
  | .endOfOptions | .plain => none

/-- Settings from the start of a command line, in addition to `given`, and the words after them. -/
def readSettings (allowed : List Setting) (given : Settings) :
    List String → Except UsageFault (Settings × List String)
  | [] => .ok (given, [])
  | word :: rest =>
    match namedSetting? allowed (.ofText word) with
    | none => .ok (given, word :: rest)
    | some (s, some value) => do readSettings allowed (← given.add s value) rest
    | some (s, none) =>
      match rest with
      | [] => .error (.noValue s)
      | value :: rest =>
        if Word.ofText value = .plain then do readSettings allowed (← given.add s value) rest
        else .error (.noValue s)

end EntitySlice
