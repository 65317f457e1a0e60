import EntitySlice.Proofs.Json.Compact
import EntitySlice.Proofs.Regeneration

/-!
# The two shapes of a submission

A body carries a schema under one key, as a string with its text or as an object in its place. What
is taken from the body is the string itself, or a text that is read as the object
(`requestedSchema_shapes`). The object lies one level deeper in the body than in its own text, so a
body that is read leaves room for it.
-/

namespace EntitySlice.Json

/-! ## Room for what is read -/

/-- Where there is more room the same values can be read. -/
theorem Value.Readable.mono {room room' : Nat} {v : Value} (h : v.Readable room)
    (hroom : room ≤ room') : v.Readable room' := by
  induction h generalizing room' with
  | null => exact .null
  | bool b => exact .bool b
  | number h => exact .number h
  | string s => exact .string s
  | array _ ih =>
    obtain ⟨n, rfl⟩ := Nat.exists_eq_add_of_lt hroom
    exact .array fun v hv => ih v hv (by omega)
  | object keys _ ih =>
    obtain ⟨n, rfl⟩ := Nat.exists_eq_add_of_lt hroom
    exact .object keys fun m hm => ih m hm (by omega)

theorem Members.mem_of_get? {members : Members} {key : String} {v : Value}
    (h : members.get? key = some v) : (key, v) ∈ members := by
  obtain ⟨before, after, rfl, -⟩ := List.lookup_eq_some_iff.mp h
  simp

/-- A value in an object needs less room than the object. -/
theorem Value.Readable.get? {room : Nat} {v w : Value} (h : v.Readable room) {key : String}
    (hw : v.get? key = some w) : w.Readable room := by
  cases h with
  | object _ hvalues => exact (hvalues _ (Members.mem_of_get? hw)).mono (Nat.le_succ _)
  | _ => simp [Value.get?] at hw

/-- A text is read as a value if what its characters are read as has the tokens of that value. -/
theorem parse?_of_tokens {text : String} {cs : List Char} {v : Value} (hcs : text.toList = cs)
    (h : ((scan cs).bind ofTokens?).map Value.tokens = some v.tokens)
    (hv : ofTokens? v.tokens = some v) : parse? text = some v := by
  rw [← hcs, ← parse?] at h
  obtain ⟨w, hw, htokens⟩ := Option.map_eq_some_iff.mp h
  rw [hw, ← ofTokens?_tokens (readable_of_parse? hw), htokens, hv]

end EntitySlice.Json

namespace EntitySlice

open EntitySlice.Json

/-! ## What a body carries -/

/-- Whether a body carries a value in the place of a schema. -/
def Carries (body : String) (v : Value) : Prop :=
  ∃ envelope, parse? body = some envelope ∧ envelope.get? "data" = some v

theorem Carries.readable {body : String} {v : Value} (h : Carries body v) :
    v.Readable maxDepth := by
  obtain ⟨envelope, hparse, hdata⟩ := h
  exact (readable_of_parse? hparse).get? hdata

theorem carries_of_parse? {body : String} {v : Value}
    (h : parse? body = some (.object [("data", v)])) : Carries body v :=
  ⟨_, h, by simp [Value.get?, Members.get?]⟩

/-- A string in its envelope can be read. -/
theorem parse?_compact_string (s : String) :
    parse? (Value.object [("data", .string s)]).compact = some (.object [("data", .string s)]) := by
  apply parse?_compact
  · exact .object (List.nodup_singleton _) (by simpa using .string s)
  · intro x hx
    simp [Value.numbers, memberNumbers] at hx

/-- A string is taken as it is. -/
theorem requestedSchema_string {body s : String} (h : Carries body (.string s)) :
    requestedSchema body = .ok s := by
  obtain ⟨envelope, hparse, hdata⟩ := h
  rw [requestedSchema, hparse]
  simp only [hdata]

/-- An object is taken as its text without spaces. -/
theorem requestedSchema_object {body : String} {members : Members}
    (h : Carries body (.object members)) :
    requestedSchema body = .ok (Value.object members).compact := by
  obtain ⟨envelope, hparse, hdata⟩ := h
  rw [requestedSchema, hparse]
  simp only [hdata]

/-! ## What a text stands for -/

/-- Whether a text stands for a document: it is read as the document, with the keys of every object
in their order; the schema, or the fault, is that of the document; and the plan, or the fault, is
that of every other text of the document. -/
structure StandsFor (text : String) (document : Value) : Prop where
  read : parse? text = some document
  schema : Schema.parse text = Schema.ofValue document
  plan (keys : NamingKeys) (other : String) (h : parse? other = some document) :
    plan keys text = plan keys other

theorem standsFor_of_parse? {text : String} {document : Value}
    (h : parse? text = some document) : StandsFor text document where
  read := h
  schema := by rw [Schema.parse, h]
  plan keys _ hother := plan_congr keys (h.trans hother.symm)

/--
**Both shapes of a submission mean the same.** Every string can be put under the key, and is taken
as it was put there from any body that carries it. From any body that carries an object a text is
taken that stands for the object, however deep the object nests. All that is asked of the
floating-point numbers in the object is that each of them reads back.
-/
theorem requestedSchema_shapes :
    (∀ s, requestedSchema (Value.object [("data", .string s)]).compact = .ok s) ∧
    (∀ body s, Carries body (.string s) → requestedSchema body = .ok s) ∧
    ∀ body members, Carries body (.object members) → (Value.object members).FloatsReadBack →
      ∃ text, requestedSchema body = .ok text ∧ StandsFor text (.object members) := by
  refine ⟨fun s => requestedSchema_string (carries_of_parse? (parse?_compact_string s)),
    fun body s h => requestedSchema_string h, fun body members h hx => ?_⟩
  exact ⟨_, requestedSchema_object h, standsFor_of_parse? (parse?_compact h.readable hx)⟩

/-- A body with an object that has a key twice, nests, and has a number that is not whole. -/
def nestedBody : String :=
  "\x7b\"data\":null,\"more\":[],\"data\":\x7b\"b\":0,"
    ++ "\"a\":\"\\u0041\\n\",\"b\":\x7b\"y\":-2.50,\"x\":[7,\x7b\x7d]\x7d\x7d\x7d"

/-- The members of the object in it. -/
def nestedMembers : Members :=
  [("b", .object [("y", .number (.float ⟨true, 5629499534213120, -51⟩)),
      ("x", .array [.number (.integer 7), .object []])]),
    ("a", .string "A\n")]

theorem requestedSchema_shapes_nested :
    ∃ text, requestedSchema nestedBody = .ok text ∧ StandsFor text (.object nestedMembers) := by
  have hparse : parse? nestedBody =
      some (.object [("data", .object nestedMembers), ("more", .array [])]) := by
    apply parse?_of_tokens
    · unfold nestedBody
      exact toList_append_eq String.toList_ofList String.toList_ofList
    · decide +kernel
    · rfl
  have hback : ∀ n ∈ (Value.object nestedMembers).numbers, n.ReadsBack := by
    decide +kernel
  exact requestedSchema_shapes.2.2 _ _ ⟨_, hparse, by simp [Value.get?, Members.get?]⟩
    fun x hx => hback _ hx

end EntitySlice
