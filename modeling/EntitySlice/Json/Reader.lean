import EntitySlice.Json.Token

/-!
# Reading JSON text

The nesting half of reading JSON: a machine that takes one token at a time and remembers the
containers that are still open. A text is a document if the machine ends, all containers closed,
right after its one value. Containers nest at most `maxDepth` deep.
-/

namespace EntitySlice.Json

/-- How deep arrays and objects may nest. -/
def maxDepth : Nat := 127

/-- A container around the value that is being read. -/
inductive Frame
  /-- An array with the items before the value, last first. -/
  | item (done : List Value)
  /-- An object with the members before the value and the key of the value. -/
  | member (done : Members) (key : String)

/-- What the machine expects, inside the containers `outer`, innermost first. -/
inductive ReadState
  /-- A value. -/
  | value (outer : List Frame)
  /-- The first item of an array or its end. -/
  | firstItem (outer : List Frame)
  /-- The first key of an object or its end. -/
  | firstKey (outer : List Frame)
  /-- A further key of an object. -/
  | key (done : Members) (outer : List Frame)
  /-- The colon after a key. -/
  | colon (done : Members) (key : String) (outer : List Frame)
  /-- What comes after a value. -/
  | after (v : Value) (outer : List Frame)

/-- The state after the first token of a value. -/
def ReadState.start (outer : List Frame) : Token → Option ReadState
  | .null => some (.after .null outer)
  | .bool b => some (.after (.bool b) outer)
  | .number n => some (.after (.number n) outer)
  | .string s => some (.after (.string s) outer)
  | .openArray => if outer.length < maxDepth then some (.firstItem outer) else none
  | .openObject => if outer.length < maxDepth then some (.firstKey outer) else none
  | .closeArray | .closeObject | .comma | .colon => none

/-- The state after one more token, if the token can stand there. -/
def ReadState.step : ReadState → Token → Option ReadState
  | .value outer, t => start outer t
  | .firstItem outer, .closeArray => some (.after (.array []) outer)
  | .firstItem outer, t => start (.item [] :: outer) t
  | .firstKey outer, .closeObject => some (.after (.object []) outer)
  | .firstKey outer, .string k => some (.colon [] k outer)
  | .key done outer, .string k => some (.colon done k outer)
  | .colon done k outer, .colon => some (.value (.member done k :: outer))
  | .after v (.item done :: outer), .comma => some (.value (.item (v :: done) :: outer))
  | .after v (.item done :: outer), .closeArray =>
    some (.after (.array (v :: done).reverse) outer)
  | .after v (.member done k :: outer), .comma => some (.key (done.insert k v) outer)
  | .after v (.member done k :: outer), .closeObject =>
    some (.after (.object (done.insert k v)) outer)
  | _, _ => none

/-- The state after a list of tokens. -/
def ReadState.run : ReadState → List Token → Option ReadState
  | s, [] => some s
  | s, t :: rest => (s.step t).bind (run · rest)

/-- The document that a list of tokens spells. -/
def ofTokens? (tokens : List Token) : Option Value :=
  match ReadState.run (.value []) tokens with
  | some (.after v []) => some v
  | _ => none

/-- The document that a text spells; nothing if the text is not JSON. -/
def parse? (s : String) : Option Value :=
  (scan s.toList).bind ofTokens?

/-- A run over tokens is a run over the first of them followed by one over the others. -/
theorem ReadState.run_append (s : ReadState) (ts us : List Token) :
    s.run (ts ++ us) = (s.run ts).bind (run · us) := by
  induction ts generalizing s with
  | nil => rfl
  | cons t rest ih =>
    simp only [List.cons_append, run]
    cases s.step t <;> simp [ih]

end EntitySlice.Json
