import EntitySlice.Proofs.Identifiers
import EntitySlice.Proofs.Slice.Imports

/-!
# Names of different features

Two features lie in different folders if their plurals differ in more than the case of letters. The
tag of cached answers, the model, the interface of the records and the hook for the state of the
page have the plural in them as it is, so they are different too. The object with the operations has
its camel-case form, and no underscore is left in that: in small letters it is the folder without
its underscores (`Naming.smallLetters_pluralCamel`). So two of these objects have the same name only
if the folders differ in underscores alone (`resolve_identities`).
-/

namespace EntitySlice

open EntitySlice.Slice EntitySlice.Source EntitySlice.Text

/-! ## Camel case in small letters -/

theorem asciiLower_cases {c : Char} (h : isIdentifierPart c = true) :
    asciiLower (asciiLower c) = asciiLower c ∧ asciiLower (asciiUpper c) = asciiLower c ∧
      (asciiLower c = '_' ↔ c = '_') :=
  forall_isIdentifierPart (p := fun c => asciiLower (asciiLower c) = asciiLower c ∧
    asciiLower (asciiUpper c) = asciiLower c ∧ (asciiLower c = '_' ↔ c = '_')) (by decide) h

section

variable {cs : List Char} (h : ∀ c ∈ cs, isIdentifierPart c = true)

include h

theorem map_asciiLower_lowerChars : (lowerChars cs).map asciiLower = cs.map asciiLower := by
  rw [lowerChars_of_isIdentifierPart h, List.map_map]
  exact List.map_congr_left fun c hc => (asciiLower_cases (h c hc)).1

theorem map_asciiLower_capitalizeWord :
    (capitalizeWord cs).map asciiLower = cs.map asciiLower := by
  cases cs with
  | nil => rfl
  | cons c cs =>
    rw [List.forall_mem_cons] at h
    rw [capitalizeWord, (cases_of_isIdentifierPart h.1).2, List.map_append,
      map_asciiLower_lowerChars h.2, List.map_singleton, (asciiLower_cases h.1).2.1]
    rfl

/-- **The camel-case form changes nothing but the case of letters**, and drops the underscores. -/
theorem map_asciiLower_camelChars :
    (camelChars cs).map asciiLower = (cs.filter (· ≠ '_')).map asciiLower := by
  have hwords : ∀ w ∈ words cs, ∀ c ∈ w, isIdentifierPart c = true := fun w hw c hc =>
    h c (mem_of_mem_words hw hc)
  rw [← flatten_words_of_isIdentifierPart h, camelChars]
  split
  · next hw => rw [hw]; rfl
  · next w ws hw =>
    rw [hw, List.forall_mem_cons] at hwords
    have hrest : (ws.flatMap capitalizeWord).map asciiLower = ws.flatten.map asciiLower := by
      rw [List.map_flatMap, List.map_flatten, List.flatMap_def]
      exact congrArg List.flatten
        (List.map_congr_left fun w' hw' => map_asciiLower_capitalizeWord (hwords.2 w' hw'))
    rw [hw, List.map_append, map_asciiLower_lowerChars hwords.1, hrest, List.flatten_cons,
      List.map_append]

end

/-! ## The object with the operations -/

/-- A text without its underscores. -/
def withoutUnderscores (s : String) : String :=
  String.ofList (s.toList.filter (· ≠ '_'))

namespace Naming

variable {n n' : Naming}

/-- **The camel-case plural in small letters is the folder without its underscores.** -/
theorem smallLetters_pluralCamel (hn : n.OfParts) :
    smallLetters n.pluralCamel = withoutUnderscores n.folder := by
  have hfilter : (n.plural.toList.map asciiLower).filter (· ≠ '_') =
      (n.plural.toList.filter (· ≠ '_')).map asciiLower := by
    rw [List.filter_map]
    refine congrArg (List.map asciiLower) (List.filter_congr fun c hc => ?_)
    exact decide_eq_decide.mpr (not_congr (asciiLower_cases (hn.plural c hc)).2.2)
  rw [smallLetters, pluralCamel, camelCase, String.toList_ofList,
    map_asciiLower_camelChars hn.plural, withoutUnderscores, folder, pluralLower, smallLetters,
    String.toList_ofList, hfilter]

theorem apiSlice_eq_iff : n.apiSlice = n'.apiSlice ↔ n.pluralCamel = n'.pluralCamel :=
  String.append_left_inj _

/-- Objects with the same name belong to folders that differ in underscores at most. -/
theorem withoutUnderscores_folder_of_apiSlice_eq (hn : n.OfParts) (hn' : n'.OfParts)
    (h : n.apiSlice = n'.apiSlice) :
    withoutUnderscores n.folder = withoutUnderscores n'.folder := by
  rw [← smallLetters_pluralCamel hn, ← smallLetters_pluralCamel hn', apiSlice_eq_iff.mp h]

theorem plural_ne_of_folder_ne (h : n.folder ≠ n'.folder) : n.plural ≠ n'.plural :=
  mt (congrArg smallLetters) h

end Naming

/-- The query client keeps what it has fetched under the name of the object with the operations. -/
theorem hasCode_reducerPath (e : Entity) :
    HasCode (queryClient e).lines ("reducerPath: '" ++ e.naming.apiSlice ++ "',") := by
  have hitem : .declared (apiSliceConst e) ∈ (queryClient e).items :=
    List.mem_of_getElem? (i := 5) rfl
  exact .of_const hitem ⟨0, List.mem_append_left _ List.mem_cons_self⟩

/--
**Names in different folders are different**, but for the objects with the operations: these have
the same name if the camel-case forms of the plurals are the same, and that only if the folders
differ in underscores alone. The query client of an entity keeps what it has fetched under the name
of the object.
-/
theorem resolve_identities {keys : NamingKeys} {block block' : Json.Members} {n n' : Naming}
    {ws ws' : List Warning} (h : Naming.resolve keys block = .ok (n, ws))
    (h' : Naming.resolve keys block' = .ok (n', ws')) (hne : n.folder ≠ n'.folder) :
    n.tagType ≠ n'.tagType ∧ n.modelName ≠ n'.modelName ∧ n.interfaceName ≠ n'.interfaceName ∧
      n.storeHook ≠ n'.storeHook ∧
      (n.apiSlice = n'.apiSlice ↔ n.pluralCamel = n'.pluralCamel) ∧
      (withoutUnderscores n.folder ≠ withoutUnderscores n'.folder → n.apiSlice ≠ n'.apiSlice) ∧
      ∀ e : Entity, HasCode (queryClient e).lines
        ("reducerPath: '" ++ e.naming.apiSlice ++ "',") := by
  have hplural := Naming.plural_ne_of_folder_ne hne
  have hbehind (before : String) : before ++ n.plural ≠ before ++ n'.plural :=
    mt (String.append_right_inj _).mp hplural
  refine ⟨hbehind _, hplural, hbehind _, ?_, Naming.apiSlice_eq_iff, ?_, hasCode_reducerPath⟩
  · exact mt (String.append_left_inj _).mp (hbehind _)
  · exact mt (Naming.withoutUnderscores_folder_of_apiSlice_eq (ofParts_of_resolve h)
      (ofParts_of_resolve h'))

/-- A naming block with a plural and its small letters. -/
def pluralNames (plural pluralLower : String) : Json.Members :=
  [("Users_1_000___", .string plural), ("users_2_000___", .string pluralLower),
    ("User_3_000___", .string "Post")]

theorem resolve_pluralNames :
    Naming.resolve {} (pluralNames "Blog_Posts" "blog_posts") =
        .ok (⟨"Blog_Posts", "Post", false⟩, []) ∧
      Naming.resolve {} (pluralNames "BlogPosts" "blogposts") =
        .ok (⟨"BlogPosts", "Post", false⟩, []) ∧
      Naming.resolve {} (pluralNames "BlogNotes" "blognotes") =
        .ok (⟨"BlogNotes", "Post", false⟩, []) :=
  ⟨rfl, rfl, rfl⟩

theorem resolve_identities_blogNotes :
    let n : Naming := ⟨"Blog_Posts", "Post", false⟩
    let n' : Naming := ⟨"BlogNotes", "Post", false⟩
    n.folder ≠ n'.folder ∧ n.tagType ≠ n'.tagType ∧ n.modelName ≠ n'.modelName ∧
      n.interfaceName ≠ n'.interfaceName ∧ n.storeHook ≠ n'.storeHook ∧
      n.apiSlice ≠ n'.apiSlice := by
  intro n n'
  have hne : n.folder ≠ n'.folder := by decide
  obtain ⟨htag, hmodel, hinterface, hstore, -, hslice, -⟩ :=
    resolve_identities resolve_pluralNames.1 resolve_pluralNames.2.2 hne
  exact ⟨hne, htag, hmodel, hinterface, hstore, hslice (by decide)⟩

/-- Objects with the operations can have the same name although the folders are different. -/
theorem exists_apiSlice_shared :
    ¬∀ (keys : NamingKeys) (block block' : Json.Members) (n n' : Naming) (ws ws' : List Warning),
      Naming.resolve keys block = .ok (n, ws) → Naming.resolve keys block' = .ok (n', ws') →
      n.folder ≠ n'.folder →
        n.apiSlice ≠ n'.apiSlice ∧ n.tagType ≠ n'.tagType ∧ n.modelName ≠ n'.modelName ∧
          n.interfaceName ≠ n'.interfaceName ∧ n.storeHook ≠ n'.storeHook := by
  intro hall
  have hboth := hall {} _ _ _ _ _ _ resolve_pluralNames.1 resolve_pluralNames.2.1 (by decide)
  exact hboth.1 (Naming.apiSlice_eq_iff.mpr (by decide +kernel))

end EntitySlice
