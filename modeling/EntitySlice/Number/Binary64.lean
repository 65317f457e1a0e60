/-!
# Binary floating-point numbers

Numbers with 53 significant bits, as exact values: a sign, a mantissa and a power of two. A
fraction is rounded to the nearest of them, a tie to the one with the even mantissa, and all
arithmetic is exact arithmetic on natural numbers followed by one rounding. `ofScaled` reads a
decimal number in the way that readers with a 64-bit significand do: with one rounding for the
digits and one for the power of ten.
-/

namespace EntitySlice.Number

/--
The finite number `mantissa * 2 ^ exponent`, or its opposite. The mantissa has at most 53 bits, and
exactly 53 unless the exponent is `-1074`.
-/
structure Finite64 where
  negative : Bool
  mantissa : Nat
  exponent : Int
  deriving DecidableEq, Repr

/-- Every value that 64 bits can stand for. -/
inductive Binary64
  | finite (x : Finite64)
  | infinite (negative : Bool)
  | notANumber
  deriving DecidableEq, Repr

namespace Finite64

/-- The least exponent. -/
def minExponent : Int := -1074

/-- The greatest exponent. -/
def maxExponent : Int := 971

/-- Zero with a sign. -/
def zero (negative : Bool) : Finite64 := ⟨negative, 0, minExponent⟩

/-- The fraction `num / den` in units of `2 ^ e`, as a numerator and a denominator. -/
def inUnits (num den : Nat) (e : Int) : Nat × Nat :=
  if 0 ≤ e then (num, den * Nat.pow 2 e.toNat) else (num * Nat.pow 2 (-e).toNat, den)

/-- The quotient rounded to the nearest whole number, a tie to the even one. -/
def roundQuotient (num den : Nat) : Nat :=
  let q := num / den
  let r := num % den
  if den < 2 * r || (2 * r = den && q % 2 = 1) then q + 1 else q

/-- The exponent in whose units the fraction `num / den` has 53 bits, or the least one. -/
def exponentFor (num den : Nat) : Int :=
  let guess : Int := (num.log2 : Int) - den.log2 - 52
  let (n, d) := inUnits num den guess
  max minExponent (if n / d < Nat.pow 2 52 then guess - 1 else guess)

/-- The number nearest to `num / den`; `none` if it is too great. -/
def ofFraction (negative : Bool) (num den : Nat) : Option Finite64 :=
  if num = 0 then some (zero negative)
  else
    let e := exponentFor num den
    let (n, d) := inUnits num den e
    let q := roundQuotient n d
    let (q, e) := if q = Nat.pow 2 53 then (Nat.pow 2 52, e + 1) else (q, e)
    if maxExponent < e then none else some ⟨negative, q, e⟩

/-- The absolute value as a fraction. -/
def fraction (x : Finite64) : Nat × Nat :=
  if 0 ≤ x.exponent then (x.mantissa * Nat.pow 2 x.exponent.toNat, 1)
  else (x.mantissa, Nat.pow 2 (-x.exponent).toNat)

/-- The power of ten `10 ^ k`, rounded; exact up to `10 ^ 22`. -/
def powerOfTen (k : Nat) : Finite64 :=
  (ofFraction false (Nat.pow 10 k) 1).getD (zero false)

/-- The rounded product of absolute values. -/
def mul? (x y : Finite64) : Option Finite64 :=
  let (a, b) := x.fraction
  let (c, d) := y.fraction
  ofFraction x.negative (a * c) (b * d)

/-- The rounded quotient of absolute values. -/
def div? (x y : Finite64) : Option Finite64 :=
  let (a, b) := x.fraction
  let (c, d) := y.fraction
  ofFraction x.negative (a * d) (b * c)

/-- The greatest power of ten that is a number of its own. -/
def maxTenExponent : Nat := 308

/--
The number `x * 10 ^ e`, by one rounded multiplication or division for each factor of at most
`10 ^ 308`; `none` if it is too great.
-/
def scale? (x : Finite64) (e : Int) : Option Finite64 :=
  if x.mantissa = 0 then some x
  else if 0 ≤ e then
    if e.toNat ≤ maxTenExponent then x.mul? (powerOfTen e.toNat) else none
  else if (-e).toNat ≤ maxTenExponent then x.div? (powerOfTen (-e).toNat)
  else (x.div? (powerOfTen maxTenExponent)).bind fun y => scale? y (e + maxTenExponent)
termination_by (-e).toNat
decreasing_by unfold maxTenExponent at *; omega

/-- The number that the digits `significand` scaled by `10 ^ e` are read as. -/
def ofScaled (negative : Bool) (significand : Nat) (e : Int) : Option Finite64 :=
  (ofFraction negative significand 1).bind (scale? · e)

/-- Whether the number is a whole number. -/
def isWhole (x : Finite64) : Bool :=
  let (n, d) := x.fraction
  n % d = 0

/-- The absolute value of a number without its fraction. -/
def wholePart (x : Finite64) : Nat :=
  let (n, d) := x.fraction
  n / d

@[simp] theorem fraction_zero (negative : Bool) : (zero negative).fraction.1 = 0 := by
  unfold fraction
  split <;> simp [zero]

@[simp] theorem isWhole_zero (negative : Bool) : (zero negative).isWhole = true := by
  simp [isWhole]

@[simp] theorem wholePart_zero (negative : Bool) : (zero negative).wholePart = 0 := by
  simp [wholePart]

end Finite64

/-- The value of 64 bits: a sign bit, eleven bits of exponent and 52 of mantissa. -/
def Binary64.ofBits (bits : Nat) : Binary64 :=
  let negative : Bool := bits / Nat.pow 2 63 % 2 = 1
  let exponent : Nat := bits / Nat.pow 2 52 % Nat.pow 2 11
  let mantissa : Nat := bits % Nat.pow 2 52
  if exponent = 2047 then
    if mantissa = 0 then .infinite negative else .notANumber
  else if exponent = 0 then .finite ⟨negative, mantissa, Finite64.minExponent⟩
  else .finite ⟨negative, Nat.pow 2 52 + mantissa, (exponent : Int) - 1075⟩

end EntitySlice.Number
