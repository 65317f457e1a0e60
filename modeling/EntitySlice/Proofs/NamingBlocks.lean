import EntitySlice.Proofs.Identifiers

/-!
# What a naming block supplies

Names are resolved from the values at five keys of a naming block (`resolve_eq_ok_iff`). What is
read at a key depends on its value alone, and a value that is written back in form is read as it is
(`suppliedName_settled`, `requiredText_settled`). Two blocks that differ in the folder flag only
resolve to the same names with the same warnings (`resolve_of_flag`). Besides the names, what is
prepared from a document depends on its field list (`prepare_eq`).
-/

namespace EntitySlice

open EntitySlice.Source EntitySlice.Text

/-- The five keys of a naming block. -/
def NamingKeys.all (k : NamingKeys) : List String :=
  [k.plural, k.pluralLower, k.singular, k.singularLower, k.generateFolder]

/-! ## Reading a key -/

section

variable {block block' : Json.Members} {key : String}

theorem optionalText_congr (h : block'.get? key = block.get? key) :
    optionalText block' key = optionalText block key := by
  rw [optionalText, optionalText, h]

theorem requiredText_congr (h : block'.get? key = block.get? key) :
    requiredText block' key = requiredText block key := by
  rw [requiredText, requiredText, optionalText_congr h]

theorem suppliedName_congr (h : block'.get? key = block.get? key) :
    suppliedName block' key = suppliedName block key := by
  rw [suppliedName, suppliedName, requiredText_congr h]

theorem flagAt_congr (h : block'.get? key = block.get? key) :
    flagAt block' key = flagAt block key := by
  rw [flagAt, flagAt, h]

theorem requiredText_eq_ok_iff {s : String} :
    requiredText block key = .ok s ↔ optionalText block key = .ok (some s) := by
  unfold requiredText
  cases optionalText block key with
  | error e => simp
  | ok t? => cases t? <;> simp

theorem suppliedName_eq_ok_iff {s : String} :
    suppliedName block key = .ok s ↔
      optionalText block key = .ok (some s) ∧ isEntityName s = true := by
  unfold suppliedName
  rw [← requiredText_eq_ok_iff]
  cases requiredText block key with
  | error e => simp
  | ok t =>
    dsimp only
    by_cases ht : isEntityName t = true
    · rw [if_pos ht, Except.ok.injEq]
      exact ⟨fun h => ⟨h, h ▸ ht⟩, fun h => h.1⟩
    · rw [if_neg ht, Except.ok.injEq]
      refine ⟨fun h => by simp at h, ?_⟩
      rintro ⟨rfl, hs⟩
      exact absurd hs ht

/-! ## Values in form -/

/-- Whether nothing is trimmed from a text and something is left of it. -/
def IsTrim (s : String) : Prop := s ≠ "" ∧ ∀ c ∈ s.toList, isBlank c = false

theorem trim_of_isTrim {s : String} (h : IsTrim s) : trim s = s := by
  have keep : ∀ cs : List Char, (∀ c ∈ cs, isBlank c = false) → cs.dropWhile isBlank = cs := by
    intro cs hcs
    cases cs with
    | nil => rfl
    | cons c rest => rw [List.dropWhile_cons_of_neg (by simp [hcs c List.mem_cons_self])]
  rw [trim, trimChars, keep _ h.2, keep _ fun c hc => h.2 c (List.mem_reverse.mp hc),
    List.reverse_reverse, String.ofList_toList]

theorem isTrim_of_isIdentifierPart {s : String} (hne : s ≠ "")
    (h : ∀ c ∈ s.toList, isIdentifierPart c = true) : IsTrim s :=
  ⟨hne, fun c hc => forall_isIdentifierPart (p := fun c => isBlank c = false) (by decide) (h c hc)⟩

/-- A text that is read at a key is read again when it stays, or is put there in its form. -/
theorem optionalText_settled {s t : String} (h : optionalText block key = .ok (some s))
    (hget : block'.get? key = if s = t then block.get? key else some (.string t))
    (ht : IsTrim t) : optionalText block' key = .ok (some t) := by
  by_cases hst : s = t
  · rw [if_pos hst] at hget
    rw [optionalText_congr hget, h, hst]
  · rw [if_neg hst] at hget
    rw [optionalText, hget]
    simp only [trim_of_isTrim ht, if_neg ht.1]

theorem requiredText_settled {s t : String} (h : requiredText block key = .ok s)
    (hget : block'.get? key = if s = t then block.get? key else some (.string t))
    (ht : IsTrim t) : requiredText block' key = .ok t :=
  requiredText_eq_ok_iff.mpr (optionalText_settled (requiredText_eq_ok_iff.mp h) hget ht)

/-- A name is neither empty nor has it blanks or dollar signs. -/
theorem isTrim_of_isEntityName {s : String} (h : isEntityName s = true) : IsTrim s := by
  have hid : isIdentifier s = true := (Bool.and_eq_true_iff.mp h).1
  refine isTrim_of_isIdentifierPart ?_ fun c hc => isIdentifierPart_of_mem hid hc
  rintro rfl
  exact absurd hid (by decide)

theorem suppliedName_settled {s t : String} (h : suppliedName block key = .ok s)
    (hget : block'.get? key = if s = t then block.get? key else some (.string t))
    (ht : isEntityName t = true) : suppliedName block' key = .ok t :=
  suppliedName_eq_ok_iff.mpr
    ⟨optionalText_settled (suppliedName_eq_ok_iff.mp h).1 hget (isTrim_of_isEntityName ht), ht⟩

theorem isEntityName_of_suppliedName {s : String} (h : suppliedName block key = .ok s) :
    isEntityName s = true :=
  (suppliedName_eq_ok_iff.mp h).2

end

/-! ## The capital of a name -/

/-- A name with a capital is a name, and has its capital already. -/
theorem isEntityName_capitalizeAscii {s : String} (h : isEntityName s = true) :
    isEntityName (capitalizeAscii s) = true ∧
      capitalizeAscii (capitalizeAscii s) = capitalizeAscii s := by
  have upper {c : Char} (hc : isIdentifierPart c = true) :
      isIdentifierStart (asciiUpper c) = isIdentifierStart c ∧
        (asciiUpper c = '$' → c = '$') ∧ asciiUpper (asciiUpper c) = asciiUpper c :=
    forall_isIdentifierPart (p := fun c => isIdentifierStart (asciiUpper c) = isIdentifierStart c ∧
      (asciiUpper c = '$' → c = '$') ∧ asciiUpper (asciiUpper c) = asciiUpper c) (by decide) hc
  rw [isEntityName, Bool.and_eq_true, isIdentifier] at h
  obtain ⟨hchars, hdollar⟩ := h
  cases hs : s.toList with
  | nil => simp [hs, isIdentifierChars] at hchars
  | cons c rest =>
    have hcap : capitalizeAscii s = String.ofList (asciiUpper c :: rest) := by
      rw [capitalizeAscii, hs]
    obtain ⟨hstart, hkeep, hagain⟩ :=
      upper (isIdentifierPart_of_mem hchars (hs ▸ List.mem_cons_self))
    rw [hs, isIdentifierChars, Bool.and_eq_true] at hchars
    rw [hs] at hdollar
    constructor
    · rw [isEntityName, Bool.and_eq_true, isIdentifier, hcap, String.toList_ofList,
        isIdentifierChars, Bool.and_eq_true]
      refine ⟨⟨hstart.trans hchars.1, hchars.2⟩, ?_⟩
      simp only [List.contains_cons, Bool.not_eq_true', Bool.or_eq_false_iff,
        beq_eq_false_iff_ne, ne_eq] at hdollar ⊢
      exact ⟨fun he => hdollar.1 (hkeep he.symm).symm, hdollar.2⟩
    · rw [hcap, capitalizeAscii, String.toList_ofList]
      dsimp only
      rw [hagain]

/-- A name in small letters is trim. -/
theorem isTrim_smallLetters {s : String} (h : isEntityName s = true) : IsTrim (smallLetters s) := by
  have hid : isIdentifier s = true := (Bool.and_eq_true_iff.mp h).1
  refine isTrim_of_isIdentifierPart (fun he => (isTrim_of_isEntityName h).1 ?_) ?_
  · have hnil := congrArg String.toList he
    rw [smallLetters, String.toList_ofList] at hnil
    exact String.toList_eq_nil_iff.mp (List.map_eq_nil_iff.mp hnil)
  · intro c hc
    rw [smallLetters, String.toList_ofList] at hc
    obtain ⟨d, hd, rfl⟩ := List.mem_map.mp hc
    exact (isIdentifierPart_cases (isIdentifierPart_of_mem hid hd)).1

/-! ## Resolved names -/

/-- The values of a naming block before they are brought into form. -/
structure Supplied where
  plural : String
  pluralLower : String
  singular : String
  singularLower? : Option String
  generateFolder : Bool

/-- A name in a naming block: its key, the text that is supplied there, and what it stands for. -/
structure NameEntry where
  key : String
  supplied : String
  resolved : String

/-- The warning about a name that is not supplied in its form. -/
def NameEntry.warning? (n : NameEntry) : Option Warning := corrected? n.key n.supplied n.resolved

namespace Supplied

/-- The names that the values stand for. -/
def naming (s : Supplied) : Naming :=
  ⟨capitalizeAscii s.plural, capitalizeAscii s.singular, s.generateFolder⟩

/-- The names among the values; the singular in small letters may be left out. -/
def entries (keys : NamingKeys) (s : Supplied) : List NameEntry :=
  [⟨keys.plural, s.plural, s.naming.plural⟩, ⟨keys.singular, s.singular, s.naming.singular⟩,
    ⟨keys.pluralLower, s.pluralLower, s.naming.pluralLower⟩]
    ++ s.singularLower?.toList.map fun l => ⟨keys.singularLower, l, s.naming.singularLower⟩

/-- The warnings about the names. -/
def warnings (keys : NamingKeys) (s : Supplied) : List Warning :=
  (s.entries keys).filterMap NameEntry.warning?

/-- Whether a block supplies the values. -/
structure Reads (keys : NamingKeys) (block : Json.Members) (s : Supplied) : Prop where
  plural : suppliedName block keys.plural = .ok s.plural
  pluralLower : requiredText block keys.pluralLower = .ok s.pluralLower
  singular : suppliedName block keys.singular = .ok s.singular
  singularLower : optionalText block keys.singularLower = .ok s.singularLower?
  generateFolder : flagAt block keys.generateFolder = .ok s.generateFolder

end Supplied

variable {keys : NamingKeys} {block block' : Json.Members}

/-- **Names are resolved from the values at five keys**, if they make a safe folder name. -/
theorem resolve_eq_ok_iff {n : Naming} {ws : List Warning} :
    Naming.resolve keys block = .ok (n, ws) ↔
      ∃ s : Supplied, s.Reads keys block ∧ isFolderName s.naming.folder = true ∧
        n = s.naming ∧ ws = s.warnings keys := by
  have warnings (s : Supplied) :
      [corrected? keys.plural s.plural s.naming.plural,
        corrected? keys.singular s.singular s.naming.singular,
        corrected? keys.pluralLower s.pluralLower s.naming.pluralLower,
        s.singularLower?.bind fun l =>
          corrected? keys.singularLower l s.naming.singularLower].reduceOption
        = s.warnings keys := by
    have hreduce (l : List (Option Warning)) : l.reduceOption = l.filterMap id := rfl
    rw [Supplied.warnings, Supplied.entries, hreduce]
    cases s.singularLower? <;> simp [List.filterMap_cons, NameEntry.warning?]
  constructor
  · intro h
    unfold Naming.resolve at h
    obtain ⟨plural, hplural, h⟩ := exists_of_bind_eq_ok h
    obtain ⟨pluralLower, hpluralLower, h⟩ := exists_of_bind_eq_ok h
    obtain ⟨singular, hsingular, h⟩ := exists_of_bind_eq_ok h
    obtain ⟨singularLower?, hsingularLower, h⟩ := exists_of_bind_eq_ok h
    dsimp only at h
    split at h
    · next hfolder =>
      obtain ⟨flag, hflag, h⟩ := exists_of_bind_eq_ok h
      obtain ⟨rfl, rfl⟩ := Prod.mk.inj (Except.ok.inj h)
      exact ⟨⟨plural, pluralLower, singular, singularLower?, flag⟩,
        ⟨hplural, hpluralLower, hsingular, hsingularLower, hflag⟩, hfolder, rfl,
        warnings ⟨plural, pluralLower, singular, singularLower?, flag⟩⟩
    · obtain ⟨_, h, -⟩ := exists_of_bind_eq_ok h
      simp [throw, throwThe, MonadExceptOf.throw] at h
  · rintro ⟨s, hs, hfolder, rfl, rfl⟩
    have hfolder' : isFolderName
        (⟨capitalizeAscii s.plural, capitalizeAscii s.singular, false⟩ : Naming).folder = true :=
      hfolder
    rw [← warnings s]
    unfold Naming.resolve
    rw [hs.plural, hs.pluralLower, hs.singular, hs.singularLower]
    simp only [bind, Except.bind, hfolder', hs.generateFolder]
    rfl

/-- **The folder flag has no say in the other names**, nor in what is wrong with them. -/
theorem resolve_of_flag {flag flag' : Bool} (hflag : flagAt block keys.generateFolder = .ok flag)
    (hflag' : flagAt block' keys.generateFolder = .ok flag')
    (h : ∀ key ∈ [keys.plural, keys.pluralLower, keys.singular, keys.singularLower],
      block'.get? key = block.get? key) :
    Naming.resolve keys block' =
      (Naming.resolve keys block).map fun r => ({ r.1 with generateFolder := flag' }, r.2) := by
  simp only [List.forall_mem_cons] at h
  obtain ⟨hplural, hpluralLower, hsingular, hsingularLower, -⟩ := h
  unfold Naming.resolve
  rw [suppliedName_congr hplural, requiredText_congr hpluralLower, suppliedName_congr hsingular,
    optionalText_congr hsingularLower, hflag, hflag']
  cases suppliedName block keys.plural with
  | error e => rfl
  | ok plural =>
    cases requiredText block keys.pluralLower with
    | error e => rfl
    | ok pluralLower =>
      cases suppliedName block keys.singular with
      | error e => rfl
      | ok singular =>
        cases optionalText block keys.singularLower with
        | error e => rfl
        | ok singularLower? =>
          simp only [bind, Except.bind]
          split <;> rfl

/-! ## Preparing a document -/

section

variable {keys : NamingKeys} {text : String} {v : Json.Value} {block : Json.Members}

theorem ofValue_eq (h : v.get? namingKey = some (.object block)) :
    Schema.ofValue v = (fieldsOf (v.get? fieldsKey)).map fun fs => ⟨fs, block, v⟩ := by
  cases v with
  | object members =>
    rw [Schema.ofValue, h, namingOf]
    cases fieldsOf ((Json.Value.object members).get? fieldsKey) <;> rfl
  | _ => simp [Json.Value.get?] at h

/-- What is prepared depends on the field list and the naming block of a document. -/
theorem prepare_eq (hv : Json.parse? text = some v)
    (h : v.get? namingKey = some (.object block)) :
    prepare keys text = do
      let fs ← (fieldsOf (v.get? fieldsKey)).mapError .schema
      let r ← (Naming.resolve keys block).mapError .naming
      return (⟨r.1, Field.ofSpecs fs, v⟩, r.2 ++ fieldWarnings fs) := by
  have hs : Schema.parse text = (fieldsOf (v.get? fieldsKey)).map fun fs => ⟨fs, block, v⟩ := by
    rw [Schema.parse, hv]
    exact ofValue_eq h
  rw [prepare, prepareRun, hs]
  cases fieldsOf (v.get? fieldsKey) with
  | error x => rfl
  | ok fs =>
    cases hn : Naming.resolve keys block with
    | error x => simp [Run.reach, Except.map, hn]; rfl
    | ok r => simp [Run.reach, Except.map, hn]; rfl

end

end EntitySlice
