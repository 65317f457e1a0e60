import EntitySlice.Json.Value
import EntitySlice.Proofs.Source.Records

/-!
# Answers in generated code

A function answers with an object expression, which is sent as JSON (`answer?`). The other side
reads a member of a member of what it gets, with a default behind it for an answer without such
members (`chain?`).
-/

namespace EntitySlice.Source

open EntitySlice.Json (Members)

/-- What variables hold that go into an answer, or that an answer is read from. -/
abbrev JsonVariables := String → Option Json.Value

/-! ## Object expressions -/

/-- The name that a member of an object expression sets. -/
def Member.name? : Member → Option String
  | .entry key _ => (readKey? key.toList).map String.ofList
  | .shorthand name => some name
  | .spread _ => none

/-- The variable that a member of an object expression has its value from. -/
def Member.variable? : Member → Option String
  | .entry _ value => some value
  | .shorthand name => some name
  | .spread _ => none

/-- The entry with the prototype's key says what an object comes from, and sets no member of it. -/
def Member.isSet : Member → Bool
  | .entry key _ => readKey? key.toList ≠ some Record.prototypeKey.toList
  | .shorthand _ | .spread _ => true

/-- The members of an answer with one more. -/
def extendAnswer? (vars : JsonVariables) (members : Json.Members) (m : Member) :
    Option Json.Members := do
  let name ← m.name?
  let v ← m.variable?.bind vars
  return if m.isSet then members.insert name v else members

/-- What an object expression is as JSON. -/
def answer? (vars : JsonVariables) (members : List Member) : Option Json.Value :=
  (members.foldlM (extendAnswer? vars) []).map .object

section

variable {vars : JsonVariables} {v : Json.Value} (members : Json.Members)

theorem extendAnswer?_shorthand {name : String} (h : vars name = some v) :
    extendAnswer? vars members (.shorthand name) = some (members.insert name v) := by
  simp [extendAnswer?, Member.name?, Member.variable?, Member.isSet, h]

theorem extendAnswer?_entry {name value : String} (hname : isIdentifier name = true)
    (hproto : name ≠ Record.prototypeKey) (h : vars value = some v) :
    extendAnswer? vars members (.entry name value) = some (members.insert name v) := by
  have hkey : readKey? name.toList = some name.toList := if_pos hname
  have hset : name.toList ≠ Record.prototypeKey.toList := mt String.toList_inj.mp hproto
  simp [extendAnswer?, Member.name?, Member.variable?, Member.isSet, h, hkey, hset]

end

/-! ## Members of members -/

/-- The names in an expression for a member of a member, whatever stands behind a blank. -/
def chainNames (expression : String) : List String :=
  ((expression.toList.takeWhile (· ≠ ' ')).splitOn '.').map fun name =>
    String.ofList (name.filter (· ≠ '?'))

/-- The value of a variable, or of a member of a member of one. -/
def chain? (vars : JsonVariables) (expression : String) : Option Json.Value :=
  match chainNames expression with
  | [] => none
  | x :: names => (vars x).bind (names.foldlM Json.Value.get?)

/-- The names of a member of the data in an answer. -/
theorem chainNames_data {k : String} (hk : ∀ c ∈ k.toList, c ≠ ' ' ∧ c ≠ '.' ∧ c ≠ '?')
    (fallback : String) :
    chainNames ("data?.data?." ++ k ++ " ?? " ++ fallback) = ["data", "data", k] := by
  have hlist : ("data?.data?." ++ k ++ " ?? " ++ fallback).toList =
      ("data?".toList ++ '.' :: ("data?".toList ++ '.' :: k.toList))
        ++ (' ' :: ("?? ".toList ++ fallback.toList)) := by
    simp
  have hblank : ∀ c ∈ "data?".toList ++ '.' :: ("data?".toList ++ '.' :: k.toList),
      decide (c ≠ ' ') = true := by
    have hfront : ∀ c ∈ "data?".toList, decide (c ≠ ' ') = true := List.all_eq_true.mp rfl
    simp only [List.forall_mem_append, List.forall_mem_cons]
    exact ⟨hfront, rfl, hfront, rfl, fun c hc => by simpa using (hk c hc).1⟩
  have hdot : '.' ∉ k.toList := fun hmem => (hk _ hmem).2.1 rfl
  have hkept : k.toList.filter (· ≠ '?') = k.toList :=
    List.filter_eq_self.mpr fun c hc => by simpa using (hk c hc).2.2
  have hdata : "data?".toList.filter (· ≠ '?') = "data".toList := by decide
  rw [chainNames, hlist, List.takeWhile_append_of_pos hblank, List.takeWhile_cons_of_neg (by simp),
    List.append_nil, List.splitOn_append_cons_self_of_not_mem (by decide),
    List.splitOn_append_cons_self_of_not_mem (by decide), List.splitOn_eq_singleton hdot]
  simp only [List.map_cons, List.map_nil, hdata, hkept, String.ofList_toList]

end EntitySlice.Source
