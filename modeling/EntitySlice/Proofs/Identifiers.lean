import EntitySlice.Proofs.Naming

/-!
# Names made from names

The plural and the singular of an entity are identifiers, and all other names are made from them. A
name with letters before the plural or behind it is an identifier with it. The camel-case form is
another matter: it drops every underscore, so it starts with the first other character, and there
may be none. The folder sees to it that the plural starts with a letter; nothing does so for the
singular (`resolve_identifiers`).

* `Naming.identifiers` — all names that stand where the generated code must have an identifier
* `Naming.leading?` — the character that the camel-case singular starts with
-/

namespace EntitySlice

open EntitySlice.Source EntitySlice.Text

/-! ## Clusters -/

/-- A character of an identifier is a cluster of its own. -/
theorem breakClass_of_isIdentifierPart {c : Char} (h : isIdentifierPart c = true) :
    BreakClass.of c = .other :=
  forall_isIdentifierPart (p := fun c => BreakClass.of c = .other) (by decide) h

theorem clustersAfter_of_isIdentifierPart {cs : List Char}
    (h : ∀ c ∈ cs, isIdentifierPart c = true) (d : Char) :
    clustersAfter [d] (.start .other) cs = [d] :: cs.map fun c => [c] := by
  induction cs generalizing d with
  | nil => rfl
  | cons c cs ih =>
    rw [List.forall_mem_cons] at h
    rw [clustersAfter, breakClass_of_isIdentifierPart h.1, List.map_cons, ← ih h.2 c]
    rfl

theorem clusters_of_isIdentifierPart {cs : List Char} (h : ∀ c ∈ cs, isIdentifierPart c = true) :
    clusters cs = cs.map fun c => [c] := by
  cases cs with
  | nil => rfl
  | cons c cs =>
    rw [List.forall_mem_cons] at h
    rw [clusters, breakClass_of_isIdentifierPart h.1, clustersAfter_of_isIdentifierPart h.2]
    rfl

/-! ## Words -/

/-- The words together are what was begun before them and all clusters that are no separators. -/
theorem flatten_wordsAfter (current : List Char) (last? : Option LetterKind)
    (gs : List (List Char × LetterKind)) :
    (wordsAfter current last? gs).flatten =
      current.reverse ++ (gs.filter fun g => g.2 ≠ .separator).flatMap Prod.fst := by
  induction gs generalizing current last? with
  | nil => simp [wordsAfter]
  | cons g gs ih =>
    obtain ⟨g, kind⟩ := g
    rw [wordsAfter]
    split
    · next hkind => simp [hkind, ih]
    · next hkind => split <;> simp [hkind, ih]

/-- **Words leave out nothing but separators.** -/
theorem flatten_words (cs : List Char) :
    (words cs).flatten = ((clusters cs).filter fun g => LetterKind.of g ≠ .separator).flatten := by
  rw [words, List.flatten_filter_not_isEmpty, flatten_wordsAfter, List.filter_map, List.flatMap_map]
  exact List.flatMap_id

/-- A word is not empty. -/
theorem ne_nil_of_mem_words {cs w : List Char} (h : w ∈ words cs) : w ≠ [] := by
  simpa using (List.mem_filter.mp h).2

theorem letterKind_of_eq_separator_iff {c : Char} (h : isIdentifierPart c = true) :
    LetterKind.of [c] = .separator ↔ c = '_' := by
  have hother : c ≠ '-' ∧ c ≠ ' ' :=
    forall_isIdentifierPart (p := fun c => c ≠ '-' ∧ c ≠ ' ') (by decide) h
  constructor
  · intro hkind
    refine Decidable.byContradiction fun hc => ?_
    rw [LetterKind.of, if_neg (by simp [hc, hother])] at hkind
    dsimp only at hkind
    repeat' split at hkind
    all_goals exact LetterKind.noConfusion hkind
  · intro hc
    rw [hc]
    rfl

/-- The words of an identifier are its characters without the underscores. -/
theorem flatten_words_of_isIdentifierPart {cs : List Char}
    (h : ∀ c ∈ cs, isIdentifierPart c = true) :
    (words cs).flatten = cs.filter (· ≠ '_') := by
  rw [flatten_words, clusters_of_isIdentifierPart h, List.filter_map]
  have hfilter : cs.filter ((fun g => decide (LetterKind.of g ≠ .separator)) ∘ fun c => [c]) =
      cs.filter (· ≠ '_') :=
    List.filter_congr fun c hc =>
      decide_eq_decide.mpr (not_congr (letterKind_of_eq_separator_iff (h c hc)))
  rw [hfilter, List.flatten_eq_flatMap, List.flatMap_map]
  exact List.flatMap_singleton' _

/-! ## Camel case -/

/-- The cases of a character of an identifier are those of an ASCII character. -/
theorem cases_of_isIdentifierPart {c : Char} (h : isIdentifierPart c = true) :
    lowerChar c = [asciiLower c] ∧ upperChar c = [asciiUpper c] :=
  forall_isIdentifierPart (p := fun c => lowerChar c = [asciiLower c] ∧
    upperChar c = [asciiUpper c]) (by decide) h

theorem isIdentifierPart_cases {c : Char} (h : isIdentifierPart c = true) :
    isIdentifierPart (asciiLower c) = true ∧ isIdentifierPart (asciiUpper c) = true :=
  forall_isIdentifierPart (p := fun c => isIdentifierPart (asciiLower c) = true ∧
    isIdentifierPart (asciiUpper c) = true) (by decide) h

theorem isIdentifierStart_asciiLower {c : Char} (h : isIdentifierPart c = true) :
    isIdentifierStart (asciiLower c) = isIdentifierStart c :=
  forall_isIdentifierPart (p := fun c => isIdentifierStart (asciiLower c) = isIdentifierStart c)
    (by decide) h

theorem lowerChars_of_isIdentifierPart {cs : List Char} (h : ∀ c ∈ cs, isIdentifierPart c = true) :
    lowerChars cs = cs.map asciiLower := by
  have hsigma : 'Σ' ∉ cs := fun hs => (newline_notMem_cases (h _ hs)).2.2 rfl
  rw [lowerChars, lowerAfter_eq_lowerEach _ hsigma, lowerEach, List.flatMap_def,
    List.map_congr_left fun c hc => (cases_of_isIdentifierPart (h c hc)).1]
  exact List.map_eq_flatMap.symm

theorem isIdentifierPart_lowerChars {cs : List Char} (h : ∀ c ∈ cs, isIdentifierPart c = true) :
    ∀ c ∈ lowerChars cs, isIdentifierPart c = true := by
  rw [lowerChars_of_isIdentifierPart h, List.forall_mem_map]
  exact fun c hc => (isIdentifierPart_cases (h c hc)).1

theorem isIdentifierPart_capitalizeWord {w : List Char} (h : ∀ c ∈ w, isIdentifierPart c = true) :
    ∀ c ∈ capitalizeWord w, isIdentifierPart c = true := by
  cases w with
  | nil => simp [capitalizeWord]
  | cons c w =>
    rw [List.forall_mem_cons] at h
    rw [capitalizeWord, (cases_of_isIdentifierPart h.1).2, List.singleton_append,
      List.forall_mem_cons]
    exact ⟨(isIdentifierPart_cases h.1).2, isIdentifierPart_lowerChars h.2⟩

section

variable {cs : List Char} (h : ∀ c ∈ cs, isIdentifierPart c = true)

include h

theorem isIdentifierPart_camelChars : ∀ c ∈ camelChars cs, isIdentifierPart c = true := by
  have hwords : ∀ w ∈ words cs, ∀ c ∈ w, isIdentifierPart c = true := fun w hw c hc =>
    h c (mem_of_mem_words hw hc)
  unfold camelChars
  split
  · simp
  · next w ws hw =>
    rw [hw, List.forall_mem_cons] at hwords
    intro c hc
    rcases List.mem_append.mp hc with hc | hc
    · exact isIdentifierPart_lowerChars hwords.1 c hc
    · obtain ⟨w', hw', hc⟩ := List.mem_flatMap.mp hc
      exact isIdentifierPart_capitalizeWord (hwords.2 w' hw') c hc

/-- The camel-case form starts with the first character that is no underscore. -/
theorem head?_camelChars : (camelChars cs).head? = (cs.find? (· ≠ '_')).map asciiLower := by
  have hflat := flatten_words_of_isIdentifierPart h
  rw [← List.head?_filter, ← hflat]
  unfold camelChars
  split
  · next hw => rw [hw]; rfl
  · next w ws hw =>
    have hmem : w ∈ words cs := hw ▸ List.mem_cons_self
    have hparts : ∀ c ∈ w, isIdentifierPart c = true := fun c hc => h c (mem_of_mem_words hmem hc)
    rw [hw, lowerChars_of_isIdentifierPart hparts]
    obtain ⟨c, rest, rfl⟩ := List.exists_cons_of_ne_nil (ne_nil_of_mem_words hmem)
    rfl

end

theorem isIdentifierChars_iff {cs : List Char} (h : ∀ c ∈ cs, isIdentifierPart c = true) :
    isIdentifierChars cs = true ↔ ∃ c, cs.head? = some c ∧ isIdentifierStart c = true := by
  cases cs with
  | nil => simp [isIdentifierChars]
  | cons c cs =>
    rw [List.forall_mem_cons] at h
    simp [isIdentifierChars, List.all_eq_true.mpr h.2]

/-- **The camel-case form is an identifier if the character that it starts with allows it.** -/
theorem isIdentifier_camelCase_iff {s : String} (h : ∀ c ∈ s.toList, isIdentifierPart c = true) :
    isIdentifier (camelCase s) = true ↔
      ∃ c, s.toList.find? (· ≠ '_') = some c ∧ isIdentifierStart c = true := by
  rw [isIdentifier, camelCase, String.toList_ofList,
    isIdentifierChars_iff (isIdentifierPart_camelChars h), head?_camelChars h]
  constructor
  · rintro ⟨d, hd, hstart⟩
    obtain ⟨c, hc, rfl⟩ := Option.map_eq_some_iff.mp hd
    have hpart := h c (List.mem_of_find?_eq_some hc)
    exact ⟨c, hc, (isIdentifierStart_asciiLower hpart).symm.trans hstart⟩
  · rintro ⟨c, hc, hstart⟩
    have hpart := h c (List.mem_of_find?_eq_some hc)
    exact ⟨asciiLower c, by rw [hc]; rfl, (isIdentifierStart_asciiLower hpart).trans hstart⟩

/-! ## Names with something before or behind -/

theorem isIdentifier_append {s t : String} (hs : isIdentifier s = true)
    (ht : ∀ c ∈ t.toList, isIdentifierPart c = true) : isIdentifier (s ++ t) = true := by
  have hparts : ∀ c ∈ (s ++ t).toList, isIdentifierPart c = true := by
    rw [String.toList_append, List.forall_mem_append]
    exact ⟨fun c hc => isIdentifierPart_of_mem hs hc, ht⟩
  obtain ⟨c, hc, hstart⟩ := (isIdentifierChars_iff fun c hc => isIdentifierPart_of_mem hs hc).mp hs
  refine (isIdentifierChars_iff hparts).mpr ⟨c, ?_, hstart⟩
  rw [String.toList_append, List.head?_append, hc]
  rfl

theorem isIdentifier_append_isIdentifier {s t : String} (hs : isIdentifier s = true)
    (ht : isIdentifier t = true) : isIdentifier (s ++ t) = true :=
  isIdentifier_append hs fun _ hc => isIdentifierPart_of_mem ht hc

/-- What stands before the plural in the names of an operation. -/
theorem isIdentifier_verb (o : Operation) :
    isIdentifier o.verb = true ∧ isIdentifier ("use" ++ capitalizeAscii o.verb) = true := by
  cases o <;> decide

/-- What stands behind the plural in the names of an operation. -/
theorem isIdentifierPart_ending (o : Operation) :
    (∀ c ∈ o.ending.toList, isIdentifierPart c = true) ∧
      ∀ c ∈ (capitalizeAscii o.builder).toList, isIdentifierPart c = true := by
  cases o <;> exact ⟨List.all_eq_true.mp (by decide), List.all_eq_true.mp (by decide)⟩

/-! ## The names of an entity -/

namespace Naming

/-- The names of an entity that stand where the generated code must have an identifier. -/
def identifiers (n : Naming) : List String :=
  [n.plural, n.singular, n.pluralCamel, n.singularCamel, n.interfaceName, n.defaultConst,
    n.storeHook, n.storeInterface, n.validateFn, n.apiSlice, n.tagType, n.modelName,
    n.schemaConst] ++ n.endpoints.flatMap fun e => [e.name, e.hook]

/-- The character that the singular in camel case starts with, with a capital perhaps. -/
def leading? (n : Naming) : Option Char :=
  n.singular.toList.find? (· ≠ '_')

variable {n : Naming}

/-- A folder starts with a small letter or a digit, and an identifier does not with a digit. -/
theorem isIdentifier_pluralCamel (h : isIdentifier n.plural = true)
    (hfolder : isFolderName n.folder = true) : isIdentifier n.pluralCamel = true := by
  have hparts : ∀ c ∈ n.plural.toList, isIdentifierPart c = true := fun c hc =>
    isIdentifierPart_of_mem h hc
  obtain ⟨c, hc, hstart⟩ := (isIdentifierChars_iff hparts).mp h
  obtain ⟨rest, hrest⟩ := List.head?_eq_some_iff.mp hc
  have hunderscore : c ≠ '_' := by
    rintro rfl
    rw [folder, pluralLower, smallLetters, isFolderName, String.toList_ofList, hrest,
      List.map_cons, Bool.and_eq_true] at hfolder
    exact absurd hfolder.1 (by decide)
  refine (isIdentifier_camelCase_iff hparts).mpr ⟨c, ?_, hstart⟩
  rw [hrest, List.find?_cons_of_pos (by simpa using hunderscore)]

/-- The names made from the plural are identifiers if its camel-case form is one. -/
theorem isIdentifier_of_mem_identifiers (hplural : isIdentifier n.plural = true)
    (hsingular : isIdentifier n.singular = true) (hcamel : isIdentifier n.pluralCamel = true)
    {s : String} (hs : s ∈ n.identifiers) :
    s = n.singularCamel ∨ s = n.schemaConst ∨ isIdentifier s = true := by
  have hbehind {a : String} (ha : isIdentifier a = true) : isIdentifier (a ++ n.plural) = true :=
    isIdentifier_append_isIdentifier ha hplural
  have hname {s : String} (h : isIdentifier s = true) :
      s = n.singularCamel ∨ s = n.schemaConst ∨ isIdentifier s = true := .inr (.inr h)
  rcases List.mem_append.mp hs with hs | hs
  · simp only [List.mem_cons, List.not_mem_nil, or_false] at hs
    rcases hs with rfl | rfl | rfl | rfl | rfl | rfl | rfl | rfl | rfl | rfl | rfl | rfl | rfl
    · exact hname hplural
    · exact hname hsingular
    · exact hname hcamel
    · exact .inl rfl
    · exact hname (hbehind (by decide))
    · exact hname (hbehind (by decide))
    · exact hname (isIdentifier_append (hbehind (by decide)) (List.all_eq_true.mp (by decide)))
    · exact hname (isIdentifier_append hplural (List.all_eq_true.mp (by decide)))
    · exact hname (hbehind (by decide))
    · exact hname (isIdentifier_append hcamel (List.all_eq_true.mp (by decide)))
    · exact hname (hbehind (by decide))
    · exact hname hplural
    · exact .inr (.inl rfl)
  · obtain ⟨e, he, hs⟩ := List.mem_flatMap.mp hs
    obtain ⟨o, -, rfl⟩ := List.mem_map.mp he
    obtain ⟨hverb, huse⟩ := isIdentifier_verb o
    obtain ⟨hending, hbuilder⟩ := isIdentifierPart_ending o
    simp only [List.mem_cons, List.not_mem_nil, or_false] at hs
    rcases hs with rfl | rfl
    · exact hname (isIdentifier_append (hbehind hverb) hending)
    · exact hname (isIdentifier_append (isIdentifier_append (hbehind huse) hending) hbuilder)

theorem isIdentifierStart_of_leading? (hparts : ∀ c ∈ n.singular.toList, isIdentifierPart c = true)
    {c : Char} (hc : n.leading? = some c) : isIdentifierStart c = !c.isDigit := by
  have hunderscore : c ≠ '_' := by simpa using List.find?_some hc
  exact forall_isIdentifierPart
    (p := fun c => c ≠ '_' → isIdentifierStart c = !c.isDigit) (by decide)
    (hparts c (List.mem_of_find?_eq_some hc)) hunderscore

theorem isIdentifier_singularCamel_iff (h : isIdentifier n.singular = true) :
    isIdentifier n.singularCamel = true ↔ ∃ c, n.leading? = some c ∧ c.isDigit = false := by
  have hparts : ∀ c ∈ n.singular.toList, isIdentifierPart c = true := fun c hc =>
    isIdentifierPart_of_mem h hc
  refine (isIdentifier_camelCase_iff hparts).trans (exists_congr fun c => and_congr_right ?_)
  intro hc
  rw [isIdentifierStart_of_leading? hparts hc, Bool.not_eq_true']

theorem isIdentifierPart_schemaConst (h : ∀ c ∈ n.singular.toList, isIdentifierPart c = true) :
    ∀ c ∈ n.schemaConst.toList, isIdentifierPart c = true := by
  rw [schemaConst, String.toList_append, List.forall_mem_append, singularCamel, camelCase,
    String.toList_ofList]
  exact ⟨isIdentifierPart_camelChars h, List.all_eq_true.mp (by decide)⟩

theorem isIdentifier_schemaConst_iff (h : isIdentifier n.singular = true) :
    isIdentifier n.schemaConst = true ↔ ∀ c, n.leading? = some c → c.isDigit = false := by
  have hparts : ∀ c ∈ n.singular.toList, isIdentifierPart c = true := fun c hc =>
    isIdentifierPart_of_mem h hc
  have hall := isIdentifierPart_schemaConst hparts
  rw [isIdentifier, isIdentifierChars_iff hall, schemaConst, String.toList_append, singularCamel,
    camelCase, String.toList_ofList, List.head?_append, head?_camelChars hparts]
  cases hlead : n.leading? with
  | none =>
    rw [leading?] at hlead
    rw [hlead]
    exact iff_of_true ⟨'S', by decide, by decide⟩ (by simp)
  | some c =>
    have hstart := isIdentifierStart_of_leading? hparts hlead
    have hpart := hparts c (List.mem_of_find?_eq_some hlead)
    rw [leading?] at hlead
    rw [hlead]
    simp [isIdentifierStart_asciiLower hpart, hstart]

end Naming

/--
**All names of an entity are identifiers**, but for those made from the singular in camel case: one
is an identifier if the singular has more than underscores and no digit comes first among the rest,
and the name of the database schema if no digit comes first.
-/
theorem resolve_identifiers {keys : NamingKeys} {block : Json.Members} {n : Naming}
    {ws : List Warning} (h : Naming.resolve keys block = .ok (n, ws)) :
    (∀ s ∈ n.identifiers, s = n.singularCamel ∨ s = n.schemaConst ∨ isIdentifier s = true) ∧
      (isIdentifier n.singularCamel = true ↔ ∃ c, n.leading? = some c ∧ c.isDigit = false) ∧
      (isIdentifier n.schemaConst = true ↔ ∀ c, n.leading? = some c → c.isDigit = false) := by
  obtain ⟨hplural, hsingular⟩ := isIdentifier_of_resolve h
  have hcamel := Naming.isIdentifier_pluralCamel hplural (isFolderName_of_resolve h)
  exact ⟨fun _ hs => Naming.isIdentifier_of_mem_identifiers hplural hsingular hcamel hs,
    Naming.isIdentifier_singularCamel_iff hsingular, Naming.isIdentifier_schemaConst_iff hsingular⟩

/-- A naming block whose singular is an underscore and a digit. -/
def numberedNames : Json.Members :=
  [("Users_1_000___", .string "Posts"), ("users_2_000___", .string "posts"),
    ("User_3_000___", .string "_1")]

theorem resolve_numberedNames :
    Naming.resolve {} numberedNames = .ok (⟨"Posts", "_1", false⟩, []) := by
  rfl

theorem resolve_identifiers_numberedNames :
    let n : Naming := ⟨"Posts", "_1", false⟩
    Naming.resolve {} numberedNames = .ok (n, []) ∧
      (∀ s ∈ n.identifiers, s = n.singularCamel ∨ s = n.schemaConst ∨ isIdentifier s = true) ∧
      (isIdentifier n.singularCamel = true ↔ ∃ c, n.leading? = some c ∧ c.isDigit = false) ∧
      (isIdentifier n.schemaConst = true ↔ ∀ c, n.leading? = some c → c.isDigit = false) :=
  ⟨resolve_numberedNames, resolve_identifiers resolve_numberedNames⟩

/-- Names can resolve although one of the names made from them is no identifier. -/
theorem exists_name_not_identifier :
    ¬∀ (keys : NamingKeys) (block : Json.Members) (n : Naming) (ws : List Warning),
      Naming.resolve keys block = .ok (n, ws) → ∀ s ∈ n.identifiers, isIdentifier s = true := by
  intro h
  have hschema := h {} numberedNames _ _ resolve_numberedNames
    (Naming.schemaConst ⟨"Posts", "_1", false⟩) (by simp [Naming.identifiers])
  have hdigit := (Naming.isIdentifier_schemaConst_iff (by decide)).mp hschema '1' (by decide)
  exact absurd hdigit (by decide)

end EntitySlice
