import EntitySlice.Number.Binary64
import EntitySlice.Proofs.Source.Patterns
import EntitySlice.Source.Literal

/-!
# Values and conditions in generated code

What the conditions of generated code look at and what they come to. `Expression` has the forms that
conditions are written in, for one variable; `Expression.eval?` has no result where an expression
fails, and where it asks for something that nothing depends on, such as the number that a text
spells.
-/

namespace EntitySlice.Source

open EntitySlice.Number

/-! ## Values -/

/-- The two digits of a number below a hundred. -/
def twoDigits (n : Nat) : List Char := [(n / 10).digitChar, (n % 10).digitChar]

/-- A moment as a clock shows it. -/
structure Moment where
  /-- The number that stands for the moment. -/
  number : Binary64
  isNumber : number ≠ .notANumber
  hour : Fin 24
  minute : Fin 60
  /-- What the text for the time of day goes on with. -/
  rest : List Char

/-- The text for the time of day. -/
def Moment.timeOfDay (m : Moment) : String :=
  String.ofList (twoDigits m.hour ++ ':' :: twoDigits m.minute ++ m.rest)

/-- A value. -/
inductive Value
  | undefined | null
  | boolean (b : Bool)
  | number (x : Binary64)
  | text (s : String)
  | list (items : List String)
  | date (m : Moment)
  | object (members : List (String × Value))
  /-- The object that all objects come from. -/
  | prototype

/-- The members that conditions look at; no object comes from one that has them. -/
inductive MemberName
  | start | stop | length
  deriving DecidableEq, Repr

/-- The name as it is written. -/
def MemberName.source : MemberName → String
  | start => "start"
  | stop => "end"
  | length => "length"

namespace Value

/-- The number zero. -/
def zero : Value := number (.finite (.zero false))

/-- The number that is a length. -/
def ofLength (n : Nat) : Value :=
  number (((Finite64.ofFraction false n 1).map .finite).getD (.infinite false))

/-- Whether two numbers are equal. -/
def sameNumber : Binary64 → Binary64 → Bool
  | .finite x, .finite y => x = y || (x.mantissa = 0 && y.mantissa = 0)
  | .infinite x, .infinite y => x = y
  | _, _ => false

/-- Whether a condition with the value holds. -/
def isTruthy : Value → Bool
  | undefined | null => false
  | boolean b => b
  | number .notANumber => false
  | number (.finite x) => x.mantissa ≠ 0
  | number (.infinite _) => true
  | text s => s ≠ ""
  | list _ | date _ | object _ | prototype => true

/-- Whether there is no value. -/
def isAbsent : Value → Bool
  | undefined | null => true
  | _ => false

/-- Whether the value is an object. -/
def isObject : Value → Bool
  | list _ | date _ | object _ | prototype => true
  | _ => false

/-- The value of a member. -/
def member? (name : MemberName) : Value → Option Value
  | undefined | null | text _ => none
  | object members => some ((members.lookup name.source).getD undefined)
  | list items => some (if name = .length then ofLength items.length else undefined)
  | boolean _ | number _ | date _ | prototype => some undefined

/-- The value as a number. -/
def number? : Value → Option Binary64
  | undefined | object _ | prototype => some .notANumber
  | null => some (.finite (.zero false))
  | boolean b => some (if b then .finite (Finite64.powerOfTen 0) else .finite (.zero false))
  | number x => some x
  | date m => some m.number
  | text _ | list _ => none

/-- The value as a text. -/
def text? : Value → Option String
  | undefined => some "undefined"
  | null => some "null"
  | boolean b => some (if b then "true" else "false")
  | text s => some s
  | list items => some (",".intercalate items)
  | object _ | prototype => some "[object Object]"
  | number _ | date _ => none

/-- The number for the moment that the value is read as. -/
def time? : Value → Option Binary64
  | date m => some m.number
  | undefined | object _ | prototype => some .notANumber
  | null => some (.finite (.zero false))
  | boolean _ | number _ | text _ | list _ => none

/-- Whether the value is what stands for no number. -/
def isNaN : Value → Bool
  | number .notANumber => true
  | _ => false

/-- Whether the value is a whole number. -/
def isInteger : Value → Bool
  | number (.finite x) => x.isWhole
  | _ => false

/-- Whether the value is one of some texts. -/
def isOneOf (options : List String) : Value → Bool
  | text s => options.contains s
  | _ => false

/-- Whether two values are the same; two objects are not compared. -/
def same? : Value → Value → Option Bool
  | undefined, undefined | null, null => some true
  | boolean a, boolean b => some (a = b)
  | number x, number y => some (sameNumber x y)
  | text s, text t => some (s = t)
  | v, w => if v.isObject && w.isObject then none else some false

/-- The object with two ends. -/
def span (first last : Value) : Value := object [("start", first), ("end", last)]

section

variable (b : Bool) (s : String) (m : Moment) (first last : Value)

@[simp] theorem isTruthy_boolean : (boolean b).isTruthy = b := rfl

@[simp] theorem text?_text : (text s).text? = some s := rfl

@[simp] theorem time?_date : (date m).time? = some m.number := rfl

@[simp] theorem member?_start_span : (span first last).member? .start = some first := rfl

@[simp] theorem member?_stop_span : (span first last).member? .stop = some last := rfl

end

@[simp] theorem isNaN_moment (m : Moment) : (number m.number).isNaN = false := by
  have hne := m.isNumber
  cases h : m.number with
  | notANumber => exact absurd h hne
  | _ => rfl

theorem isInteger_zero : zero.isInteger = true := Finite64.isWhole_zero false

end Value

/-! ## Expressions -/

/-- An expression with a variable. -/
inductive Expression
  /-- The variable. -/
  | it
  | undefined | null | zero
  | member (e : Expression) (name : MemberName)
  | not (e : Expression)
  | or (a b : Expression)
  | and (a b : Expression)
  | same (a b : Expression)
  | group (e : Expression)
  /-- The value as a number. -/
  | number (e : Expression)
  | isNaN (e : Expression)
  | isInteger (e : Expression)
  /-- The value as a text. -/
  | text (e : Expression)
  /-- The number for the moment that the value is read as. -/
  | time (e : Expression)
  | tests (pattern : String) (e : Expression)
  | includes (options : List String) (e : Expression)
  deriving DecidableEq, Repr

namespace Expression

/-- The pieces of the expression as it is written, with `v` for the variable. -/
def pieces (v : String) : Expression → List String
  | it => [v]
  | undefined => ["undefined"]
  | null => ["null"]
  | zero => ["0"]
  | member e name => e.pieces v ++ [".", name.source]
  | not e => "!" :: e.pieces v
  | or a b => a.pieces v ++ " || " :: b.pieces v
  | and a b => a.pieces v ++ " && " :: b.pieces v
  | same a b => a.pieces v ++ " === " :: b.pieces v
  | group e => "(" :: e.pieces v ++ [")"]
  | number e => "Number(" :: e.pieces v ++ [")"]
  | isNaN e => "Number.isNaN(" :: e.pieces v ++ [")"]
  | isInteger e => "Number.isInteger(" :: e.pieces v ++ [")"]
  | text e => "String(" :: e.pieces v ++ [")"]
  | time e => "new Date(" :: e.pieces v ++ [").getTime()"]
  | tests pattern e => pattern :: ".test(" :: e.pieces v ++ [")"]
  | includes options e => literalList options :: ".includes(" :: e.pieces v ++ [")"]

/-- The expression as it is written, with `v` for the variable. -/
def source (v : String) (e : Expression) : String := String.join (e.pieces v)

/-- What the expression comes to if the variable has the value `x`. -/
@[simp] def eval? (x : Value) : Expression → Option Value
  | it => some x
  | undefined => some .undefined
  | null => some .null
  | zero => some .zero
  | member e name => (e.eval? x).bind (·.member? name)
  | not e => (e.eval? x).map fun v => .boolean !v.isTruthy
  | or a b => (a.eval? x).bind fun v => if v.isTruthy then some v else b.eval? x
  | and a b => (a.eval? x).bind fun v => if v.isTruthy then b.eval? x else some v
  | same a b => (a.eval? x).bind fun v => (b.eval? x).bind fun w => (v.same? w).map .boolean
  | group e => e.eval? x
  | number e => ((e.eval? x).bind Value.number?).map .number
  | isNaN e => (e.eval? x).map fun v => .boolean v.isNaN
  | isInteger e => (e.eval? x).map fun v => .boolean v.isInteger
  | text e => ((e.eval? x).bind Value.text?).map .text
  | time e => ((e.eval? x).bind Value.time?).map .number
  | tests pattern e => (e.eval? x).bind fun v => v.text?.bind fun s =>
    (TextPattern.ofSource? pattern).map fun p => .boolean (p.matchesText s)
  | includes options e => (e.eval? x).map fun v => .boolean (v.isOneOf options)

end Expression

end EntitySlice.Source
