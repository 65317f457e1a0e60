import EntitySlice.Number.Binary64

/-!
# Shortest decimal numerals

The decimal numeral of a binary number is the one with the fewest digits that is nearer to that
number than to any other; among numerals of that length it is the nearest. `shortest` tries one
digit, two digits and so on, and for each length the two points of the decimal grid around the
number. A number halfway between two points is for the format to decide, and so is the layout of
the digits: `positional` writes a plain numeral, `scientific` one with an exponent.
-/

namespace EntitySlice.Number

/-- The decimal number `coefficient * 10 ^ power`. -/
structure Decimal where
  coefficient : Nat
  power : Int
  deriving DecidableEq, Repr

namespace Decimal

/-- The digits of the coefficient. -/
def digits (d : Decimal) : List Char :=
  Nat.toDigits 10 d.coefficient

/-- The exponent with one digit before the point. -/
def leadingExponent (d : Decimal) : Int :=
  d.power + d.digits.length - 1

/-- The same number without zeros at the end of the coefficient. -/
def normalize (d : Decimal) : Decimal :=
  if d.coefficient = 0 then ⟨0, 0⟩
  else if d.coefficient % 10 = 0 then normalize ⟨d.coefficient / 10, d.power + 1⟩
  else d
termination_by d.coefficient
decreasing_by exact Nat.div_lt_self (by omega) (by omega)

/-- The plain numeral; `point` says whether a whole number ends in `.0`. -/
def positional (d : Decimal) (point : Bool) : List Char :=
  let ds := d.digits
  if 0 ≤ d.power then
    ds ++ List.replicate d.power.toNat '0' ++ (if point then ['.', '0'] else [])
  else
    let places := (-d.power).toNat
    if places < ds.length then
      ds.take (ds.length - places) ++ '.' :: ds.drop (ds.length - places)
    else '0' :: '.' :: List.replicate (places - ds.length) '0' ++ ds

/-- The numeral with one digit before the point and an exponent that shows its sign. -/
def scientific (d : Decimal) : List Char :=
  let e := d.leadingExponent
  let fraction := match d.digits with
    | [] => []
    | [c] => [c]
    | c :: rest => c :: '.' :: rest
  fraction ++ 'e' :: (if 0 ≤ e then '+' else '-') :: Nat.toDigits 10 e.natAbs

end Decimal

/-- Which of two numerals of the same length stands for a number halfway between them. -/
inductive Tie
  /-- The numeral whose last digit is even. -/
  | toEven
  /-- The numeral of the greater absolute value. -/
  | away
  deriving DecidableEq, Repr

/-- Whether the greater of `c` and `c + 1` stands for the number halfway between them. -/
def Tie.takesGreater (tie : Tie) (c : Nat) : Bool :=
  match tie with
  | toEven => c % 2 = 1
  | away => true

namespace Finite64

/-- The numbers that round to a given one, as multiples of a common unit. -/
structure Neighbourhood where
  lower : Nat
  value : Nat
  upper : Nat
  /-- The denominator of the unit. -/
  den : Nat
  /-- Whether the two ends belong to it. -/
  closed : Bool

/-- The decimals between the midpoints to the two neighbours of `x`; the ends count when the
mantissa is even, since a tie goes to the even mantissa. -/
def neighbourhood (x : Finite64) : Neighbourhood :=
  let below := if x.mantissa = Nat.pow 2 52 && minExponent < x.exponent then 1 else 2
  let e := x.exponent - 2
  let num := if 0 ≤ e then Nat.pow 2 e.toNat else 1
  let den := if 0 ≤ e then 1 else Nat.pow 2 (-e).toNat
  { lower := (4 * x.mantissa - below) * num
    value := 4 * x.mantissa * num
    upper := (4 * x.mantissa + 2) * num
    den
    closed := x.mantissa % 2 = 0 }

/-- The neighbourhood in units of `10 ^ t`, over a common denominator. -/
def Neighbourhood.onGrid (n : Neighbourhood) (t : Int) : Neighbourhood :=
  if 0 ≤ t then { n with den := n.den * Nat.pow 10 t.toNat }
  else
    let k := Nat.pow 10 (-t).toNat
    { n with lower := n.lower * k, value := n.value * k, upper := n.upper * k }

/-- Whether the whole number `c` lies in the neighbourhood. -/
def Neighbourhood.holds (n : Neighbourhood) (c : Nat) : Bool :=
  if n.closed then n.lower ≤ c * n.den && c * n.den ≤ n.upper
  else n.lower < c * n.den && c * n.den < n.upper

/-- Whether the value of the neighbourhood is given by `c + 1` rather than by `c` below it. -/
def Neighbourhood.roundsUp (n : Neighbourhood) (tie : Tie) (c : Nat) : Bool :=
  let twice := 2 * (n.value % n.den)
  n.den < twice || (twice = n.den && tie.takesGreater c)

/-- The whole number in the neighbourhood that is nearest to its value, if there is one. -/
def Neighbourhood.nearest? (n : Neighbourhood) (tie : Tie) : Option Nat :=
  let c := n.value / n.den
  match n.holds c, n.holds (c + 1) with
  | true, true => some (if n.roundsUp tie c then c + 1 else c)
  | true, false => some c
  | false, true => some (c + 1)
  | false, false => none

/-- The greatest `e` with `10 ^ e` at most the value, which is not zero. -/
def decimalExponent (x : Finite64) : Int :=
  let n := x.neighbourhood
  let guess := ((x.mantissa.log2 : Int) + x.exponent) * 30103 / 100000
  let atLeast (e : Int) : Bool :=
    let g := n.onGrid e
    g.den ≤ g.value
  if atLeast (guess + 1) then guess + 1 else if atLeast guess then guess else guess - 1

/-- The shortest numeral among those of `count`, `count + 1`, … digits, at most `fuel` lengths. -/
def shortestFrom (tie : Tie) (n : Neighbourhood) (e : Int) : (fuel count : Nat) → Decimal
  | 0, count => ⟨(n.onGrid (e - count + 1)).value / (n.onGrid (e - count + 1)).den, e - count + 1⟩
  | fuel + 1, count =>
    let t := e - count + 1
    match (n.onGrid t).nearest? tie with
    | some c => ⟨c, t⟩
    | none => shortestFrom tie n e fuel (count + 1)

/--
The shortest decimal that reads back as the absolute value of `x`; one of seventeen digits does.
-/
def shortest (x : Finite64) (tie : Tie) : Decimal :=
  if x.mantissa = 0 then ⟨0, 0⟩
  else (shortestFrom tie x.neighbourhood x.decimalExponent 17 1).normalize

/-- The sign as it is written. -/
def signChars (x : Finite64) : List Char :=
  if x.negative then ['-'] else []

end Finite64

end EntitySlice.Number
