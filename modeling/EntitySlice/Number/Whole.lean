/-!
# Whole numbers in decimal

How whole numbers are written in messages and in generated code, and how they are read.
-/

namespace EntitySlice.Number

/-- The decimal digits of a number. -/
def natChars (n : Nat) : List Char :=
  Nat.toDigits 10 n

/-- The decimal numeral of a number. -/
def natText (n : Nat) : String :=
  String.ofList (natChars n)

/-- The decimal digits of a number behind a sign if it is negative. -/
def intChars (n : Int) : List Char :=
  (if n < 0 then ['-'] else []) ++ natChars n.natAbs

/-- The decimal numeral of a whole number. -/
def intText (n : Int) : String :=
  String.ofList (intChars n)

/-- The value of a digit of a numeral in a base of at most sixteen. -/
def digitValue? (base : Nat) (c : Char) : Option Nat :=
  let value? :=
    if '0' ≤ c ∧ c ≤ '9' then some (c.toNat - 48)
    else if 'a' ≤ c ∧ c ≤ 'f' then some (c.toNat - 87)
    else if 'A' ≤ c ∧ c ≤ 'F' then some (c.toNat - 55)
    else none
  value?.filter (· < base)

/-- The number that digits after `value` lead to; nothing if one of them is no digit. -/
def readDigitsFrom? (base value : Nat) : List Char → Option Nat
  | [] => some value
  | c :: rest => (digitValue? base c).bind fun d => readDigitsFrom? base (value * base + d) rest

/-- The number that a list of at least one digit stands for. -/
def readDigits? (base : Nat) (cs : List Char) : Option Nat :=
  if cs.isEmpty then none else readDigitsFrom? base 0 cs

end EntitySlice.Number
