import EntitySlice.Proofs.Json.Nesting
import EntitySlice.Proofs.Planning

/-!
# The persisted schema

A slice holds the document that it was planned from. What a run plans depends on the text of a
schema only through the document that the text is read as (`plan_congr`), and the text in the slice
is read as the same document (`parse?_persisted`). So the slice can be planned again from what is in
it (`plan_persistedSchema`).
-/

namespace EntitySlice

open EntitySlice.Json EntitySlice.Slice

/-! ## The document of a plan -/

/-- The document of a schema is what its text is read as. -/
theorem parse?_of_parse {text : String} {s : Schema} (h : Schema.parse text = .ok s) :
    Json.parse? text = some s.document := by
  unfold Schema.parse at h
  split at h
  · next v hv =>
    unfold Schema.ofValue at h
    split at h
    · obtain ⟨naming, -, h⟩ := exists_of_bind_eq_ok h
      obtain ⟨fields, -, h⟩ := exists_of_bind_eq_ok h
      obtain rfl := Except.ok.inj h
      exact hv
    · simp at h
  · simp at h

/-- What is prepared comes from a schema whose names can be resolved. -/
theorem exists_schema_of_prepare {keys : NamingKeys} {text : String} {e : Entity}
    {ws : List Warning} (h : prepare keys text = .ok (e, ws)) :
    ∃ s n ns, Schema.parse text = .ok s ∧ Naming.resolve keys s.naming = .ok (n, ns) ∧
      e = s.entity n ∧ ws = ns ++ fieldWarnings s.fields := by
  cases hs : Schema.parse text with
  | error fault => simp [prepare, prepareRun, Run.reach, hs] at h
  | ok s =>
    cases hn : Naming.resolve keys s.naming with
    | error fault => simp [prepare, prepareRun, Run.reach, hs, hn] at h
    | ok r =>
      obtain ⟨n, ns⟩ := r
      simp only [prepare, prepareRun, Run.reach, hs, hn, Run.step_ok, Run.bind_ok,
        Run.pure_eq] at h
      obtain ⟨rfl, rfl⟩ := Prod.mk.inj (Except.ok.inj h)
      exact ⟨s, n, ns, rfl, hn, rfl, rfl⟩

/-- The document of a plan is what the text was read as. -/
theorem parse?_of_plan {keys : NamingKeys} {text : String} {p : Plan}
    (h : plan keys text = .ok p) : Json.parse? text = some p.entity.document := by
  obtain ⟨s, n, ns, hs, -, he, -⟩ := exists_schema_of_prepare (plan_eq_ok_iff.mp h).1
  rw [parse?_of_parse hs, he]
  rfl

/-- **A plan depends on the document alone**, not on how it is spelt. -/
theorem plan_congr (keys : NamingKeys) {text text' : String}
    (h : Json.parse? text = Json.parse? text') : plan keys text = plan keys text' := by
  have hs : Schema.parse text = Schema.parse text' := by
    rw [Schema.parse, Schema.parse, h]
  rw [plan, plan, planRun, planRun, prepareRun, prepareRun, hs]

/-! ## The document in the slice -/

/-- The file that the document of an entity is kept in. -/
def persistedSchema (e : Entity) : Artifact :=
  ⟨Part.sliceSchema.name, e.sliceDir / "slice-schema/slice-schema.json",
    e.document.indented ++ "\n"⟩

/-- **The text in the slice is read as the document of the slice.** -/
theorem parse?_persisted {e : Entity} (h : e.document.Readable maxDepth)
    (hx : e.document.FloatsReadBack) :
    Json.parse? (persistedSchema e).content = some e.document :=
  parse?_indented h hx

/--
**A slice can be planned again from the schema in it.** The file with the schema is one of the plan,
and only one; it is read as the same document as the text that the plan was made from, with the keys
of every object in the same order, and a plan made from it is the same in all its parts. All that is
asked of the floating-point numbers in the document is that each of them reads back.
-/
theorem plan_persistedSchema {keys : NamingKeys} {text : String} {p : Plan}
    (h : plan keys text = .ok p) (hx : p.entity.document.FloatsReadBack) :
    ∃ a, p.artifacts.filter (·.key = Part.sliceSchema.name) = [a] ∧
      Json.parse? text = some p.entity.document ∧
      Json.parse? a.content = some p.entity.document ∧
      plan keys a.content = .ok p := by
  have htext := parse?_of_plan h
  have hcontent := parse?_persisted (readable_of_parse? htext) hx
  refine ⟨persistedSchema p.entity, ?_, htext, hcontent, ?_⟩
  · rw [(plan_eq_ok_iff.mp h).2]
    exact filter_artifacts (p := .sliceSchema) rfl
  · rw [← h]
    exact plan_congr keys (hcontent.trans htext.symm)

/-- A schema with a number of each kind, escaped characters and a key that comes twice. -/
def ratedSchema : String :=
  "\x7b\"rates\":[-0.0,1.5e3,2.50,7],\"note\":\"\\u0041\\n\\\"\",\"note\":\x7b\x7d,"
    ++ "\"namingConvention\":\x7b\"Users_1_000___\":\"Posts\",\"users_2_000___\":\"posts\","
    ++ "\"User_3_000___\":\"Post\"\x7d,"
    ++ "\"fields\":[\x7b\"type\":\"INTNUMBER\",\"name\":\"it's \\u2028\"\x7d]\x7d"

theorem plan_persistedSchema_rated :
    ∃ p a, plan {} ratedSchema = .ok p ∧
      p.artifacts.filter (·.key = Part.sliceSchema.name) = [a] ∧ plan {} a.content = .ok p := by
  have hnumbers : ∃ p, plan {} ratedSchema = .ok p ∧
      decide (∀ n ∈ p.entity.document.numbers, n.ReadsBack) = true := by
    apply exists_plan_of_chars (fun e => decide (∀ n ∈ e.document.numbers, n.ReadsBack))
    · unfold ratedSchema
      iterate 3 apply toList_append_eq String.toList_ofList
      exact String.toList_ofList
    · decide +kernel
  obtain ⟨p, hplan, hnumbers⟩ := hnumbers
  have hback := of_decide_eq_true hnumbers
  obtain ⟨a, ha, -, -, hagain⟩ := plan_persistedSchema hplan fun x hx => hback _ hx
  exact ⟨p, a, hplan, ha, hagain⟩

end EntitySlice
