import EntitySlice.Proofs.Json.Edits
import EntitySlice.Proofs.NamingBlocks
import EntitySlice.Proofs.Slice.Correspondence

/-!
# The folder flag moves a slice

Of two schemas that differ in the folder flag only, either both are refused for the same reason, or
their plans have the same files in another directory (`plan_moved`): every path starts with another
root, the copy of the schema holds the other flag, and one line of the query client has another
address. No other file knows where the slice lies.
-/

namespace EntitySlice

open EntitySlice.Source EntitySlice.Slice

/-! ## Twins -/

/--
Whether two documents with the given naming blocks are the same but for the folder flag, by which
the first one goes to the dashboard and the second one to the generated code.
-/
structure Twins (keys : NamingKeys) (v v' : Json.Value) (block block' : Json.Members) : Prop where
  naming : v.get? namingKey = some (.object block)
  naming' : v'.get? namingKey = some (.object block')
  members : ∀ key, key ≠ namingKey → v'.get? key = v.get? key
  names : ∀ key, key ≠ keys.generateFolder → block'.get? key = block.get? key
  dashboard : flagAt block keys.generateFolder = .ok false
  generate : flagAt block' keys.generateFolder = .ok true

/--
Whether two files of slices with the same folder name are the same but for the place of the slice:
their paths and the address in the query client name another root.
-/
structure Moved (folder : String) (a b : Artifact) : Prop where
  key : a.key = b.key
  path : ∃ rest, a.path.text = "src/app/dashboard/" ++ rest ∧
    b.path.text = "src/app/generate/" ++ rest
  content : a.key ≠ Part.sliceSchema.name → a.key ≠ Part.querySlice.name → a.content = b.content
  address : a.key = Part.querySlice.name → ∃ before after : List Line,
    a.content = linesText before
      ++ (addressLine ("/dashboard/" ++ folder ++ "/api/v1") ++ "\n" ++ linesText after) ∧
    b.content = linesText before
      ++ (addressLine ("/generate/" ++ folder ++ "/api/v1") ++ "\n" ++ linesText after)

/-- Corresponding files of slices for the two roots are the same but for their place. -/
theorem moved_of_corresponds {e e' : Entity} (he : e.Accepted) (he' : e'.Accepted)
    (hroot : e.root = .dashboard) (hroot' : e'.root = .generate)
    (hessence : e.essence = e'.essence) {f f' : SliceFile} (h : Corresponds e e' f f') :
    Moved e.naming.folder f.artifact f'.artifact := by
  have hfolder : e'.naming.folder = e.naming.folder := by
    rw [← e.folder_essence, hessence, e'.folder_essence]
  constructor
  case key => exact congrArg Part.name h.part
  case path =>
    obtain ⟨s, hs, hs'⟩ := h.place
    refine ⟨e.naming.folder ++ "/" ++ s, ?_, ?_⟩
    · rw [SliceFile.artifact, hs, Entity.text_sliceDir he, hroot]
      simp only [String.append_assoc]
      rfl
    · rw [SliceFile.artifact, hs', Entity.text_sliceDir he', hroot', hfolder]
      simp only [String.append_assoc]
      rfl
  case content =>
    intro hschema hclient
    have hcode : f.part.IsCode :=
      ⟨fun hp => hschema (congrArg Part.name hp), fun hp => hclient (congrArg Part.name hp)⟩
    exact congrArg Slice.Content.text (h.code hcode)
  case address =>
    intro hkey
    obtain ⟨hc, hc'⟩ := h.client (Part.eq_of_name_eq hkey)
    obtain ⟨hbefore, hafter⟩ := linesAroundAddress_congr hessence
    refine ⟨linesBeforeAddress e, linesAfterAddress e, ?_, ?_⟩
    · rw [SliceFile.artifact, hc, Slice.Content.text, text_queryClient, Entity.requestAddress,
        Entity.address, hroot]
      simp only [String.append_assoc]
      rfl
    · rw [SliceFile.artifact, hc', Slice.Content.text, text_queryClient, Entity.requestAddress,
        Entity.address, hroot', hfolder, ← hbefore, ← hafter]
      simp only [String.append_assoc]
      rfl

theorem forall₂_moved {e e' : Entity} (he : e.Accepted) (he' : e'.Accepted)
    (hroot : e.root = .dashboard) (hroot' : e'.root = .generate)
    (hessence : e.essence = e'.essence) :
    List.Forall₂ (Moved e.naming.folder) (artifacts e) (artifacts e') := by
  rw [artifacts, artifacts, List.forall₂_map_left_iff, List.forall₂_map_right_iff]
  exact (forall₂_files he he' hessence).imp fun _ _ h =>
    moved_of_corresponds he he' hroot hroot' hessence h

/-! ## Plans -/

section

variable {keys : NamingKeys} {text text' : String} {v v' : Json.Value}
  {block block' : Json.Members} (hv : Json.parse? text = some v)

include hv

/-- The flag of what is prepared is the flag of the block. -/
theorem generateFolder_of_prepare {e : Entity} {ws : List Warning} {flag : Bool}
    (hblock : v.get? namingKey = some (.object block))
    (hflag : flagAt block keys.generateFolder = .ok flag)
    (h : prepare keys text = .ok (e, ws)) : e.naming.generateFolder = flag := by
  rw [prepare_eq hv hblock] at h
  obtain ⟨fs, -, h⟩ := exists_of_bind_eq_ok h
  obtain ⟨r, hr, h⟩ := exists_of_bind_eq_ok h
  obtain ⟨rfl, -⟩ := Prod.mk.inj (Except.ok.inj h)
  cases hn : Naming.resolve keys block with
  | error x =>
    rw [hn] at hr
    cases hr
  | ok r' =>
    rw [hn] at hr
    obtain rfl := Except.ok.inj hr
    obtain ⟨s, hs, -, hnaming, -⟩ := resolve_eq_ok_iff.mp hn
    rw [hnaming]
    exact Except.ok.inj (hs.generateFolder.symm.trans hflag)

/-- What is prepared for the second twin is what is prepared for the first one, with its flag. -/
theorem prepare_of_twins (hkeys : keys.all.Nodup) (hv' : Json.parse? text' = some v')
    (h : Twins keys v v' block block') :
    prepare keys text' = (prepare keys text).map fun r =>
      (⟨{ r.1.naming with generateFolder := true }, r.1.fields, v'⟩, r.2) := by
  have hflag : ∀ key ∈ [keys.plural, keys.pluralLower, keys.singular, keys.singularLower],
      key ≠ keys.generateFolder := by
    rintro key hkey rfl
    have hall : ([keys.plural, keys.pluralLower, keys.singular, keys.singularLower]
        ++ [keys.generateFolder]).Nodup := hkeys
    exact List.disjoint_of_nodup_append hall hkey (List.mem_singleton_self _)
  have hresolve := resolve_of_flag h.dashboard h.generate fun key hkey =>
    h.names key (hflag key hkey)
  rw [prepare_eq hv h.naming, prepare_eq hv' h.naming', h.members fieldsKey (by decide), hresolve]
  cases fieldsOf (v.get? fieldsKey) with
  | error x => rfl
  | ok fs => cases Naming.resolve keys block <;> rfl

end

/--
**The folder flag only moves the slice.** Schemas that differ in nothing but the flag are refused
for the same reasons. If they are accepted, the plans have the same warnings and the same files in
the same order, each at its place below another root, with the same text but for the copy of the
schema and the address in the query client.
-/
theorem plan_moved {keys : NamingKeys} (hkeys : keys.all.Nodup) {text text' : String}
    {v v' : Json.Value} {block block' : Json.Members} (hv : Json.parse? text = some v)
    (hv' : Json.parse? text' = some v') (h : Twins keys v v' block block') :
    (∀ x, plan keys text = .error x ↔ plan keys text' = .error x) ∧
      ∀ p, plan keys text = .ok p → ∃ q, plan keys text' = .ok q ∧
        q.entity.naming = { p.entity.naming with generateFolder := true } ∧
        p.entity.naming.generateFolder = false ∧ q.warnings = p.warnings ∧
        List.Forall₂ (Moved p.entity.naming.folder) p.artifacts q.artifacts := by
  have hprepare' := prepare_of_twins hv hkeys hv' h
  cases hprepare : prepare keys text with
  | error x =>
    rw [hprepare] at hprepare'
    rw [plan_of_prepare_error hprepare, plan_of_prepare_error hprepare']
    exact ⟨fun y => Iff.rfl, fun p hp => by cases hp⟩
  | ok r =>
    obtain ⟨e, ws⟩ := r
    rw [hprepare] at hprepare'
    rw [plan_of_prepare hprepare, plan_of_prepare hprepare']
    refine ⟨fun y => by simp, ?_⟩
    intro p hp
    obtain rfl := Except.ok.inj hp
    have hflag := generateFolder_of_prepare hv h.naming h.dashboard hprepare
    refine ⟨_, rfl, rfl, hflag, rfl, ?_⟩
    refine forall₂_moved (accepted_of_prepare hprepare) (accepted_of_prepare hprepare') ?_ rfl rfl
    rw [Entity.root, hflag]
    rfl

/-! ## A schema for both roots -/

/-- A naming block with a value for the folder flag. -/
def flaggedNames (flag : Json.Value) : Json.Members :=
  [("Users_1_000___", .string "posts"), ("users_2_000___", .string "Posts"),
    ("User_3_000___", .string "Post"), ("use_generate_folder", flag)]

/-- A schema of posts with a value for the folder flag. -/
def flaggedSchema (flag : Json.Value) : Json.Value :=
  .object
    [(namingKey, .object (flaggedNames flag)),
     (fieldsKey, .array
      [.object [("name", .string "title"), ("type", .string "TEXTUAL")],
       .array [.string "status", .string "SELECT", .array [.string "draft"]]])]

theorem writable_flaggedSchema {flag : Json.Value} (h : ∀ room, flag.Writable room) :
    (flaggedSchema flag).Writable Json.maxDepth := by
  have naming : (Json.Value.object (flaggedNames flag)).Writable 126 := by
    refine Json.Value.writable_object.mpr ⟨?_, ?_⟩
    · show ["Users_1_000___", "users_2_000___", "User_3_000___", "use_generate_folder"].Nodup
      decide
    · simp [flaggedNames, Json.Value.writable_string, h]
  have fields : (Json.Value.array
      [.object [("name", .string "title"), ("type", .string "TEXTUAL")],
       .array [.string "status", .string "SELECT", .array [.string "draft"]]]).Writable 126 := by
    simp [Json.Value.writable_array, Json.Value.writable_object, Json.Value.writable_string]
  refine Json.Value.writable_object.mpr ⟨?_, ?_⟩
  · show [namingKey, fieldsKey].Nodup
    decide
  · simpa using ⟨naming, fields⟩

theorem twins_flaggedSchema :
    Twins {} (flaggedSchema (.string "FALSE")) (flaggedSchema (.bool true))
      (flaggedNames (.string "FALSE")) (flaggedNames (.bool true)) := by
  constructor
  case naming => rfl
  case naming' => rfl
  case members =>
    intro key hkey
    simp [flaggedSchema, Json.Value.get?, Json.Members.get?, List.lookup_cons,
      beq_false_of_ne hkey]
  case names =>
    intro key hkey
    have hkey' : (key == "use_generate_folder") = false := beq_false_of_ne hkey
    simp [flaggedNames, Json.Members.get?, List.lookup_cons, hkey']
  case dashboard => rfl
  case generate => rfl

theorem prepare_flaggedSchema {flag : Json.Value} {b : Bool} (h : ∀ room, flag.Writable room)
    (hflag : flagAt (flaggedNames flag) "use_generate_folder" = .ok b) :
    prepare {} ((flaggedSchema flag).indented ++ "\n") = .ok
      (⟨⟨"Posts", "Post", b⟩, Field.ofSpecs [⟨"title", "TEXTUAL", none, none⟩,
        ⟨"status", "SELECT", some ["draft"], none⟩], flaggedSchema flag⟩,
       [.corrected "Users_1_000___" "posts" "Posts", .corrected "users_2_000___" "Posts" "posts",
        .unknownTag "title" "TEXTUAL"]) := by
  have hfields : fieldsOf ((flaggedSchema flag).get? fieldsKey) =
      .ok [⟨"title", "TEXTUAL", none, none⟩, ⟨"status", "SELECT", some ["draft"], none⟩] := rfl
  have hnaming : Naming.resolve {} (flaggedNames flag) = .ok (⟨"Posts", "Post", b⟩,
      [.corrected "Users_1_000___" "posts" "Posts", .corrected "users_2_000___" "Posts" "posts"]) :=
    resolve_eq_ok_iff.mpr ⟨⟨"posts", "Posts", "Post", none, b⟩, ⟨rfl, rfl, rfl, rfl, hflag⟩,
      by cases b <;> decide, by cases b <;> decide, by cases b <;> decide⟩
  rw [prepare_eq (writable_flaggedSchema h).parse? rfl, hfields, hnaming]
  rfl

theorem plan_moved_flagged :
    ∃ p q, plan {} ((flaggedSchema (.string "FALSE")).indented ++ "\n") = .ok p ∧
      plan {} ((flaggedSchema (.bool true)).indented ++ "\n") = .ok q ∧
      p.warnings.length = 3 ∧ q.warnings = p.warnings ∧
      List.Forall₂ (Moved "posts") p.artifacts q.artifacts := by
  have hv := (writable_flaggedSchema fun _ => Json.Value.writable_string "FALSE").parse?
  have hv' := (writable_flaggedSchema fun _ => Json.Value.writable_bool true).parse?
  have hprepare := prepare_flaggedSchema (fun _ => Json.Value.writable_string "FALSE") rfl
  have hkeys : (NamingKeys.all {}).Nodup := by decide
  obtain ⟨-, hmoved⟩ := plan_moved hkeys hv hv' twins_flaggedSchema
  obtain ⟨q, hq, -, -, hwarnings, hfiles⟩ := hmoved _ (plan_of_prepare hprepare)
  have hfolder : Naming.folder ⟨"Posts", "Post", false⟩ = "posts" := by decide
  exact ⟨_, q, plan_of_prepare hprepare, hq, rfl, hwarnings, hfolder ▸ hfiles⟩

end EntitySlice
