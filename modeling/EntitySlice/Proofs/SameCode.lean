import EntitySlice.Proofs.Coverage
import EntitySlice.Proofs.Slice.Correspondence

/-!
# Plans with the same code

The code of a slice knows a field by its meaning: name, widget, options, and whether a record must
have a value. How the type was spelt, what else the schema says of the field and how the schema is
laid out have no say in it. Plans with the same names and fields with the same meanings have the
same files but for the copy of the schema (`sameCode_of_meaning`).
-/

namespace EntitySlice

open EntitySlice.Slice EntitySlice.Source

/-! ## The meaning of a field -/

/-- What is known of a field besides how it is described. -/
def FieldSpec.meaning (f : FieldSpec) : String × Widget × List String × Bool :=
  (f.name, f.widget, f.options, f.isRequired)

theorem FieldSpec.classification_congr {f f' : FieldSpec} (h : f.meaning = f'.meaning) :
    f.classification = f'.classification := by
  obtain ⟨-, h⟩ := Prod.mk.inj h
  obtain ⟨hwidget, h⟩ := Prod.mk.inj h
  obtain ⟨hoptions, hrequired⟩ := Prod.mk.inj h
  have hvalidator (w : Widget) : Validator.ofField w f = Validator.ofField w f' := by
    cases w <;> simp only [Validator.ofField, hoptions, hrequired]
  rw [classification, classification, hwidget, hvalidator, hrequired]

/-- The fields of an entity are known by the meanings of their descriptions. -/
theorem map_essence_ofSpecs {specs specs' : List FieldSpec}
    (h : specs.map FieldSpec.meaning = specs'.map FieldSpec.meaning) :
    (Field.ofSpecs specs).map Field.essence = (Field.ofSpecs specs').map Field.essence := by
  have hafter (taken : Std.HashSet String) :
      (Field.ofSpecsAfter taken specs).map Field.essence =
        (Field.ofSpecsAfter taken specs').map Field.essence := by
    induction specs generalizing specs' taken with
    | nil =>
      rw [List.map_nil, eq_comm, List.map_eq_nil_iff] at h
      rw [h]
    | cons f specs ih =>
      cases specs' with
      | nil => simp at h
      | cons f' specs' =>
        rw [List.map_cons, List.map_cons] at h
        obtain ⟨hf, hrest⟩ := List.cons.inj h
        have hname : f.name = f'.name := (Prod.mk.inj hf).1
        have hoptions : f.options = f'.options := (Prod.mk.inj (Prod.mk.inj (Prod.mk.inj hf).2).2).1
        rw [Field.ofSpecsAfter, Field.ofSpecsAfter, List.map_cons, List.map_cons, hname,
          ih hrest, FieldSpec.classification_congr hf]
        congr 1
        simp only [Field.essence, Field.name, Field.options, hname, hoptions]
  exact hafter {}

/-- What is known of a field besides how it is described. -/
def Field.meaning (f : Field) : String × Widget × List String × Bool :=
  (f.name, f.widget, f.options, f.isRequired)

theorem map_meaning_ofSpecs (specs : List FieldSpec) :
    (Field.ofSpecs specs).map Field.meaning = specs.map FieldSpec.meaning :=
  map_ofSpecs (fun s c => (s.name, c.widget, s.options, c.required)) specs

/-! ## Plans -/

/-- Whether two files are the same, or are copies of schemas at the same place. -/
structure SameFile (a b : Artifact) : Prop where
  key : a.key = b.key
  path : a.path = b.path
  content : a.key ≠ Part.sliceSchema.name → a.content = b.content

/-- Whether two plans have the same names and the same files, but for the copy of the schema. -/
structure SameCode (p q : Plan) : Prop where
  naming : p.entity.naming = q.entity.naming
  files : List.Forall₂ SameFile p.artifacts q.artifacts

/-- Corresponding files of slices with the same names lie at the same place. -/
theorem path_of_corresponds {e e' : Entity} (hnaming : e.naming = e'.naming) {f f' : SliceFile}
    (h : Corresponds e e' f f') : f.path = f'.path := by
  obtain ⟨s, hs, hs'⟩ := h.place
  have hdir : e.sliceDir = e'.sliceDir := by
    rw [Entity.sliceDir, Entity.sliceDir, Entity.root, Entity.root, hnaming]
  have htext : f.path.text = f'.path.text := by rw [hs, hs', hdir]
  exact congrArg Path.mk htext

/-- The query clients of entities with the same names are the same. -/
theorem text_queryClient_congr {e e' : Entity} (hnaming : e.naming = e'.naming)
    (hessence : e.essence = e'.essence) : (queryClient e).text = (queryClient e').text := by
  obtain ⟨hbefore, hafter⟩ := linesAroundAddress_congr hessence
  have haddress : e.requestAddress = e'.requestAddress := by
    rw [Entity.requestAddress, Entity.requestAddress, Entity.address, Entity.address, Entity.root,
      Entity.root, hnaming]
  rw [text_queryClient, text_queryClient, hbefore, hafter, haddress]

theorem content_of_corresponds {e e' : Entity} (hnaming : e.naming = e'.naming)
    (hessence : e.essence = e'.essence) {f f' : SliceFile} (h : Corresponds e e' f f')
    (hpart : f.part ≠ .sliceSchema) : f.content.text = f'.content.text := by
  by_cases hclient : f.part = .querySlice
  · obtain ⟨hc, hc'⟩ := h.client hclient
    rw [hc, hc']
    exact text_queryClient_congr hnaming hessence
  · rw [h.code ⟨hpart, hclient⟩]

/-- **The code of a plan follows from the names and the meanings of the fields.** -/
theorem sameCode_of_meaning {keys keys' : NamingKeys} {text text' : String} {p q : Plan}
    (h : plan keys text = .ok p) (h' : plan keys' text' = .ok q)
    (hnaming : p.entity.naming = q.entity.naming)
    (hfields : p.entity.fields.map Field.meaning = q.entity.fields.map Field.meaning) :
    SameCode p q := by
  obtain ⟨s, -, hs, -⟩ := fields_of_plan h
  obtain ⟨s', -, hs', -⟩ := fields_of_plan h'
  rw [hs, hs', map_meaning_ofSpecs, map_meaning_ofSpecs] at hfields
  have hessence : p.entity.essence = q.entity.essence := by
    rw [Entity.essence, Entity.essence, hnaming, hs, hs', map_essence_ofSpecs hfields]
  have hfiles := forall₂_files (accepted_of_plan h) (accepted_of_plan h') hessence
  have hart := (plan_eq_ok_iff.mp h).2
  have hart' := (plan_eq_ok_iff.mp h').2
  refine ⟨hnaming, ?_⟩
  rw [hart, hart', artifacts, artifacts, List.forall₂_map_left_iff, List.forall₂_map_right_iff]
  refine hfiles.imp fun f f' hf => ?_
  constructor
  case key => exact congrArg Part.name hf.part
  case path => exact path_of_corresponds hnaming hf
  case content =>
    intro hkey
    exact content_of_corresponds hnaming hessence hf fun hpart => hkey (congrArg Part.name hpart)

end EntitySlice
