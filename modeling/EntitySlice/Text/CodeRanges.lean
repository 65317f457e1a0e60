/-!
# Sets of code points

Properties of characters are given as ascending lists of closed intervals, and case mappings as
runs of characters that are shifted by one amount. Both are searched from the front, and a search
stops at the first interval that lies above the character.
-/

namespace EntitySlice.Text

/-- Closed intervals of code points, ascending and disjoint. -/
abbrev CodeRanges := List (Nat × Nat)

/-- Whether the code point lies in one of the intervals. -/
def CodeRanges.contains : CodeRanges → Nat → Bool
  | [], _ => false
  | (first, last) :: rest, n => if n < first then false else n ≤ last || contains rest n

/-- Whether the character lies in one of the intervals. -/
def CodeRanges.has (ranges : CodeRanges) (c : Char) : Bool :=
  CodeRanges.contains ranges c.toNat

/--
Characters `first`, `first + step`, … up to `last` that all map to the character `shift` further on.
-/
structure CaseRun where
  first : Nat
  last : Nat
  step : Nat
  shift : Int

/-- The code point that a list of ascending runs maps `n` to, if some run holds it. -/
def CaseRun.find? : List CaseRun → Nat → Option Nat
  | [], _ => none
  | run :: rest, n =>
    if n < run.first then none
    else if n ≤ run.last then
      if (n - run.first) % run.step = 0 then some ((n : Int) + run.shift).toNat else none
    else find? rest n

end EntitySlice.Text
