import EntitySlice.Number.Decimal

/-!
# JSON values

A JSON document as a value. Objects keep their members in the order in which their keys first came
up; a key that comes again takes the place of the first one with the newer value. Whole numbers
within 64 bits are kept as such, every other number as a binary floating-point number.
-/

namespace EntitySlice.Json

open EntitySlice.Number

/-- A number as JSON text can give it. -/
inductive Number
  | integer (n : Int)
  | float (x : Finite64)
  deriving DecidableEq, Repr

/-- A JSON document. -/
inductive Value
  | null
  | bool (b : Bool)
  | number (n : Number)
  | string (s : String)
  | array (items : List Value)
  | object (members : List (String × Value))
  deriving Inhabited

/-- The members of an object, each key once. -/
abbrev Members := List (String × Value)

/-- The value of a key. -/
def Members.get? (members : Members) (key : String) : Option Value :=
  List.lookup key members

/-- The members with `key` set to `v`: at its place if it is there, else at the end. -/
def Members.insert (key : String) (v : Value) : Members → Members
  | [] => [(key, v)]
  | (k, w) :: rest => if k = key then (k, v) :: rest else (k, w) :: insert key v rest

/-- The value of a member of an object; other values have no members. -/
def Value.get? (v : Value) (key : String) : Option Value :=
  match v with
  | .object members => Members.get? members key
  | _ => none

/-- The text of a string value. -/
def Value.string? : Value → Option String
  | .string s => some s
  | _ => none

/-- A key that was just inserted is found with its new value. -/
theorem Members.get?_insert_self (key : String) (v : Value) (members : Members) :
    Members.get? (Members.insert key v members) key = some v := by
  induction members with
  | nil => simp [Members.insert, Members.get?]
  | cons m rest ih =>
    obtain ⟨k, w⟩ := m
    rw [Members.insert]
    split
    · next h => simp [Members.get?, h]
    · next h =>
      have : (key == k) = false := by simpa using fun e => h e.symm
      simpa [Members.get?, List.lookup_cons, this] using ih

/-- Inserting a key does not touch the others. -/
theorem Members.get?_insert_of_ne {key other : String} (h : other ≠ key) (v : Value)
    (members : Members) :
    Members.get? (Members.insert key v members) other = Members.get? members other := by
  induction members with
  | nil =>
    have : (other == key) = false := by simpa using h
    simp [Members.insert, Members.get?, List.lookup_cons, this]
  | cons m rest ih =>
    obtain ⟨k, w⟩ := m
    rw [Members.insert]
    split
    · next hk =>
      have : (other == k) = false := by simpa [hk] using h
      simp [Members.get?, List.lookup_cons, this]
    · simp only [Members.get?, List.lookup_cons] at ih ⊢
      split
      · rfl
      · exact ih

end EntitySlice.Json
