import EntitySlice.Proofs.Regeneration
import EntitySlice.Proofs.Slice.Bindings

/-!
# Names that are bound twice

No module of a slice binds a name twice at its top level, with three exceptions: the controller has
the plural of the entity besides two names of its own that a plural can be, the query client names
an object like a function that it imports if the plural is some form of `create`, and the model does
so if the singular has nothing but underscores (`plan_binds`). What a module binds is read from its
lines.
-/

namespace EntitySlice

open EntitySlice.Slice EntitySlice.Source

namespace Slice

/-- The names that a file binds at its top level, as its lines say; a document has none. -/
def SliceFile.boundNames (f : SliceFile) : List String :=
  Source.boundNames (f.lines.map Line.text)

/-- The components that fields are edited with bind fixed names, each once. -/
theorem nodup_boundNames_picker (e : Entity) (p : Picker) :
    (pickerSliceFile e p).boundNames.Nodup := by
  have hnodup : (pickerFile p (pickerBody p)).binds.Nodup := by
    cases p <;> decide +kernel
  have hread : (pickerSliceFile e p).boundNames = (pickerFile p (pickerBody p)).binds :=
    boundNames_lines (isWord_of_mem_pickerBinds p) (regular_pickerFile p)
  rw [hread]
  exact hnodup

/-- **A file binds each name once**, unless a name of the entity is one that it has already. -/
theorem nodup_boundNames_iff {e : Entity} (hn : e.naming.OfParts)
    (hp : IsCapitalized e.naming.plural) {f : SliceFile} (hf : f ∈ files e) :
    f.boundNames.Nodup ↔ ¬Collides e.naming f.part := by
  rcases List.mem_append.mp hf with hf | hf
  · obtain ⟨p, -, hfile⟩ := List.mem_filterMap.mp hf
    obtain ⟨⟨path, content⟩, hs, rfl⟩ := Option.map_eq_some_iff.mp hfile
    by_cases hdocument : p = .sliceSchema
    · subst hdocument
      obtain ⟨-, rfl⟩ := Prod.mk.inj (Option.some.inj hs)
      exact iff_of_true List.nodup_nil id
    · obtain ⟨file, rfl⟩ := exists_source_of_single? hdocument hs
      have hread : SliceFile.boundNames ⟨p, path, .source file⟩ = file.binds :=
        boundNames_lines (isWord_of_mem_binds hn hp hs) (regular_of_single? hn hs)
      rw [hread]
      exact nodup_binds_iff hn hp hs
  · obtain ⟨q, -, rfl⟩ := List.mem_map.mp hf
    exact iff_of_true (nodup_boundNames_picker e q) id

end Slice

theorem naming_of_plan {keys : NamingKeys} {text : String} {p : Plan}
    (h : plan keys text = .ok p) :
    p.entity.naming.OfParts ∧ IsCapitalized p.entity.naming.plural := by
  obtain ⟨s, n, ns, -, hresolve, he, -⟩ := exists_schema_of_prepare (plan_eq_ok_iff.mp h).1
  have hnaming : p.entity.naming = n := by rw [he]; rfl
  rw [hnaming]
  exact ⟨ofParts_of_resolve hresolve, isCapitalized_of_resolve hresolve⟩

/--
**Every module of a plan binds each name once, with three exceptions.** The files are those of the
slice as they are written.
-/
theorem plan_binds {keys : NamingKeys} {text : String} {p : Plan} (h : plan keys text = .ok p) :
    p.artifacts = (files p.entity).map SliceFile.artifact ∧
      ∀ f ∈ files p.entity, f.boundNames.Nodup ↔ ¬Collides p.entity.naming f.part := by
  obtain ⟨hparts, hcapitalized⟩ := naming_of_plan h
  exact ⟨(plan_eq_ok_iff.mp h).2, fun f hf => nodup_boundNames_iff hparts hcapitalized hf⟩

/-- A schema whose plural is the name of what the controller imports for its responses. -/
def responsesSchema : String :=
  "\x7b\"namingConvention\":\x7b\"Users_1_000___\":\"NextResponse\","
    ++ "\"users_2_000___\":\"nextresponse\",\"User_3_000___\":\"Post\"\x7d\x7d"

theorem plan_responsesSchema :
    ∃ p, plan {} responsesSchema = .ok p ∧
      p.entity.naming = ⟨"NextResponse", "Post", false⟩ := by
  apply exists_plan_of_chars (fun e => e.naming)
  · unfold responsesSchema
    apply toList_append_eq String.toList_ofList
    exact String.toList_ofList
  · decide +kernel

theorem plan_binds_responsesSchema :
    ∃ p, plan {} responsesSchema = .ok p ∧
      ∀ f ∈ files p.entity, f.boundNames.Nodup ↔ f.part ≠ .controller := by
  obtain ⟨p, hp, hnaming⟩ := plan_responsesSchema
  refine ⟨p, hp, fun f hf => ?_⟩
  have hcamel : (Naming.singularCamel ⟨"NextResponse", "Post", false⟩ ≠ "") ∧
      Naming.pluralCamel ⟨"NextResponse", "Post", false⟩ ≠ "create" := by decide +kernel
  rw [(plan_binds hp).2 f hf, hnaming]
  cases f.part with
  | model => simp [Collides, hcamel]
  | controller => simp [Collides]
  | querySlice => simp [Collides, hcamel]
  | _ => simp [Collides]

/-- A module can bind a name twice. -/
theorem exists_name_bound_twice :
    ¬∀ (keys : NamingKeys) (text : String) (p : Plan), plan keys text = .ok p →
      ∀ f ∈ files p.entity, f.boundNames.Nodup := by
  intro h
  obtain ⟨p, hp, hnaming⟩ := plan_responsesSchema
  have hfile := mem_files_of_singleFile? (e := p.entity) (p := .controller) rfl
  obtain ⟨hparts, hcapitalized⟩ := naming_of_plan hp
  have hnodup := h {} responsesSchema p hp _ hfile
  refine (nodup_boundNames_iff hparts hcapitalized hfile).mp hnodup ?_
  rw [hnaming]
  exact .inl rfl

end EntitySlice
