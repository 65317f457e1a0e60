import EntitySlice.Proofs.Corrections

/-!
# Items of a field list

An item is an object, of which only the name has to be right, or an array, which has to be right
altogether (`FieldForm`). `ReadAs` says what is read of it (`ofValue_eq_ok_iff`), and there is such
a field when the item has the form of one (`fieldForm_iff`). A type that is no text stands for a
text field, whatever it is: what is written of it is never a known tag (`ofTag?_tagOfType`).
-/

namespace EntitySlice

open EntitySlice.Json EntitySlice.Source EntitySlice.Text

/-! ## What is read of an item -/

/-- Which tag is read of the type in an object: a text as it is, anything else as it is written. -/
inductive TagOf : Option Json.Value → String → Prop
  | missing : TagOf none ""
  | null : TagOf (some .null) ""
  | text (s : String) : TagOf (some (.string s)) s
  | other {v : Json.Value} (hnull : v ≠ .null) (htext : ∀ s, v ≠ .string s) :
    TagOf (some v) v.compact

/-- Which options are read of an object: the texts in an array. -/
inductive OptionsOf : Option Json.Value → Option (List String) → Prop
  | list {items : List Json.Value} {options : List String}
    (htexts : items.filter (·.string?.isSome) = options.map .string) :
    OptionsOf (some (.array items)) (some options)
  | other {v? : Option Json.Value} (hlist : ∀ items, v? ≠ some (.array items)) : OptionsOf v? none

/-- Which flag is read of an object: a truth value. -/
inductive FlagOf : Option Json.Value → Option Bool → Prop
  | flag (b : Bool) : FlagOf (some (.bool b)) (some b)
  | other {v? : Option Json.Value} (hflag : ∀ b, v? ≠ some (.bool b)) : FlagOf v? none

/-- Which options stand in a place of an array. -/
inductive OptionsAt : Option Json.Value → Option (List String) → Prop
  | missing : OptionsAt none none
  | null : OptionsAt (some .null) none
  | list (options : List String) : OptionsAt (some (.array (options.map .string))) (some options)

/-- Which flag stands in a place of an array. -/
inductive FlagAt : Option Json.Value → Option Bool → Prop
  | missing : FlagAt none none
  | null : FlagAt (some .null) none
  | flag (b : Bool) : FlagAt (some (.bool b)) (some b)

/-- Which field is read of an item of the field list. -/
inductive ReadAs : Json.Value → FieldSpec → Prop
  | object {members : Json.Members} {f : FieldSpec}
    (hname : members.get? "name" = some (.string f.name))
    (htag : TagOf (members.get? "type") f.tag)
    (hoptions : OptionsOf (members.get? "options") f.options?)
    (hflag : FlagOf (members.get? "required") f.required?) : ReadAs (.object members) f
  | array {name tag : String} {rest : List Json.Value} {options? : Option (List String)}
    {flag? : Option Bool} (hlength : rest.length ≤ 2) (hoptions : OptionsAt rest[0]? options?)
    (hflag : FlagAt rest[1]? flag?) :
    ReadAs (.array (.string name :: .string tag :: rest)) ⟨name, tag, options?, flag?⟩

theorem tagOf_iff {v? : Option Json.Value} {tag : String} :
    TagOf v? tag ↔ tagOfType v? = tag := by
  constructor
  · intro h
    cases h with
    | other hnull htext => cases ‹Json.Value› <;> simp_all [tagOfType]
    | _ => rfl
  · rintro rfl
    cases v? with
    | none => exact .missing
    | some v =>
      cases v with
      | null => exact .null
      | string s => exact .text s
      | _ => exact .other (by simp) (by simp)

theorem optionsOf_iff {v? : Option Json.Value} {options? : Option (List String)} :
    OptionsOf v? options? ↔ optionsOf v? = options? := by
  have htexts (items : List Json.Value) : items.filter (·.string?.isSome) =
      (items.filterMap Json.Value.string?).map .string := by
    induction items with
    | nil => rfl
    | cons v items ih =>
      rw [List.filter_cons, List.filterMap_cons, ih]
      cases v <;> rfl
  have hinj : Function.Injective (List.map Json.Value.string) :=
    List.map_injective_iff.mpr fun _ _ h => Json.Value.string.inj h
  constructor
  · intro h
    cases h with
    | list h =>
      rw [htexts] at h
      rw [optionsOf, hinj h]
    | other hlist =>
      unfold optionsOf
      split
      · exact absurd rfl (hlist _)
      · rfl
  · rintro rfl
    unfold optionsOf
    split
    · exact .list (htexts _)
    · next hlist => exact .other hlist

theorem flagOf_iff {v? : Option Json.Value} {flag? : Option Bool} :
    FlagOf v? flag? ↔ flagOf v? = flag? := by
  constructor
  · intro h
    cases h with
    | flag => rfl
    | other hflag =>
      unfold flagOf
      split
      · exact absurd rfl (hflag _)
      · rfl
  · rintro rfl
    unfold flagOf
    split
    · exact .flag _
    · next hflag => exact .other hflag

theorem mapM_textOf_eq_ok_iff {items : List Json.Value} {options : List String} :
    items.mapM textOf = .ok options ↔ items = options.map .string := by
  induction items generalizing options with
  | nil => cases options <;> simp [pure, Except.pure]
  | cons v items ih =>
    rw [List.mapM_cons]
    constructor
    · intro h
      obtain ⟨s, hs, h⟩ := exists_of_bind_eq_ok h
      obtain ⟨options', hoptions, h⟩ := exists_of_bind_eq_ok h
      obtain rfl := Except.ok.inj h
      rw [textOf_eq_ok_iff.mp hs, ih.mp hoptions, List.map_cons]
    · intro h
      cases options with
      | nil => simp at h
      | cons s options =>
        obtain ⟨rfl, hrest⟩ := List.cons.inj h
        rw [textOf_eq_ok_iff.mpr rfl, ih.mpr hrest]
        rfl

theorem optionsAt_iff {v? : Option Json.Value} {options? : Option (List String)} :
    OptionsAt v? options? ↔ optionsAt v? = .ok options? := by
  constructor
  · intro h
    cases h with
    | list options =>
      rw [optionsAt, mapM_textOf_eq_ok_iff.mpr rfl]
      rfl
    | _ => rfl
  · intro h
    unfold optionsAt at h
    split at h
    · obtain rfl := Except.ok.inj h
      exact .missing
    · obtain rfl := Except.ok.inj h
      exact .null
    · obtain ⟨options, hoptions, h⟩ := exists_of_bind_eq_ok h
      obtain rfl := Except.ok.inj h
      rw [mapM_textOf_eq_ok_iff.mp hoptions]
      exact .list options
    · simp at h

theorem flagAt_iff {v? : Option Json.Value} {flag? : Option Bool} :
    FlagAt v? flag? ↔ flagAtPlace v? = .ok flag? := by
  constructor
  · intro h
    cases h <;> rfl
  · intro h
    unfold flagAtPlace at h
    split at h
    · obtain rfl := Except.ok.inj h
      exact .missing
    · obtain rfl := Except.ok.inj h
      exact .null
    · obtain rfl := Except.ok.inj h
      exact .flag _
    · simp at h

/-- **An item is taken for the field that is read of it**, and for no other. -/
theorem ofValue_eq_ok_iff {item : Json.Value} {f : FieldSpec} :
    FieldSpec.ofValue item = .ok f ↔ ReadAs item f := by
  constructor
  · intro h
    cases item with
    | object members =>
      rw [FieldSpec.ofValue, fieldOfMembers] at h
      split at h
      · simp at h
      · next v hv =>
        split at h
        · simp at h
        · next name hname =>
          obtain rfl := Except.ok.inj h
          obtain rfl := textOf_eq_ok_iff.mp hname
          exact .object hv (tagOf_iff.mpr rfl) (optionsOf_iff.mpr rfl) (flagOf_iff.mpr rfl)
    | array items =>
      obtain ⟨rest, rfl, hoptions, hflag, hlength⟩ := exists_items_of_fieldOfItems h
      exact .array hlength (optionsAt_iff.mpr hoptions) (flagAt_iff.mpr hflag)
    | _ => simp [FieldSpec.ofValue] at h
  · intro h
    cases h with
    | object hname htag hoptions hflag =>
      rw [FieldSpec.ofValue, fieldOfMembers, hname]
      simp only [textOf, tagOf_iff.mp htag, optionsOf_iff.mp hoptions, flagOf_iff.mp hflag]
    | @array name tag rest _ _ hlength hoptions hflag =>
      have hshort : ¬2 < rest.length := Nat.not_lt.mpr hlength
      simp only [FieldSpec.ofValue, fieldOfItems, textOf, optionsAt_iff.mp hoptions,
        flagAt_iff.mp hflag, bind, Except.bind, if_neg hshort]
      rfl

/-! ## The form of an item -/

/--
Whether an item of the field list has the form of a field with a name: an object with that name, or
an array of the name, a tag and then, unless they are left out or null, options and a flag.
-/
inductive FieldForm : Json.Value → String → Prop
  | object {members : Json.Members} {name : String}
    (hname : members.get? "name" = some (.string name)) : FieldForm (.object members) name
  | array {name tag : String} {rest : List Json.Value} (hlength : rest.length ≤ 2)
    (hoptions : ∀ v, rest[0]? = some v →
      v = .null ∨ ∃ options : List String, v = .array (options.map .string))
    (hflag : ∀ v, rest[1]? = some v → v = .null ∨ ∃ b, v = .bool b) :
    FieldForm (.array (.string name :: .string tag :: rest)) name

/-- An item has the form of a field when a field is read of it. -/
theorem fieldForm_iff {item : Json.Value} {name : String} :
    FieldForm item name ↔ ∃ f, ReadAs item f ∧ f.name = name := by
  constructor
  · intro h
    cases h with
    | @object members name hname =>
      exact ⟨⟨name, _, _, _⟩, .object hname (tagOf_iff.mpr rfl) (optionsOf_iff.mpr rfl)
        (flagOf_iff.mpr rfl), rfl⟩
    | @array name tag rest hlength hoptions hflag =>
      obtain ⟨options?, hoptions⟩ : ∃ options?, OptionsAt rest[0]? options? := by
        cases hv : rest[0]? with
        | none => exact ⟨_, .missing⟩
        | some v =>
          rcases hoptions v hv with rfl | ⟨options, rfl⟩
          · exact ⟨_, .null⟩
          · exact ⟨_, .list options⟩
      obtain ⟨flag?, hflag⟩ : ∃ flag?, FlagAt rest[1]? flag? := by
        cases hv : rest[1]? with
        | none => exact ⟨_, .missing⟩
        | some v =>
          rcases hflag v hv with rfl | ⟨b, rfl⟩
          · exact ⟨_, .null⟩
          · exact ⟨_, .flag b⟩
      exact ⟨⟨name, tag, options?, flag?⟩, .array hlength hoptions hflag, rfl⟩
  · rintro ⟨f, h, rfl⟩
    cases h with
    | object hname _ _ _ => exact .object hname
    | array hlength hoptions hflag =>
      refine .array hlength (fun v hv => ?_) fun v hv => ?_
      · rw [hv] at hoptions
        cases hoptions with
        | null => exact .inl rfl
        | list options => exact .inr ⟨options, rfl⟩
      · rw [hv] at hflag
        cases hflag with
        | null => exact .inl rfl
        | flag b => exact .inr ⟨b, rfl⟩

/-- An item has the name of the field that it is taken for. -/
theorem fieldForm_iff_of_ofValue {item : Json.Value} {f : FieldSpec}
    (h : FieldSpec.ofValue item = .ok f) {name : String} : FieldForm item name ↔ f.name = name := by
  rw [fieldForm_iff]
  constructor
  · rintro ⟨g, hg, rfl⟩
    rw [← Except.ok.inj (h.symm.trans (ofValue_eq_ok_iff.mpr hg))]
  · exact fun hname => ⟨f, ofValue_eq_ok_iff.mp h, hname⟩

/-! ## Types that are no texts -/

/-- A tag that starts with no letter is unknown. -/
theorem ofTag?_eq_none_of_start {tag : String} {c : Char}
    (htag : (tag.toList.filter fun c => !Widget.isTagSeparator c).head? = some c)
    (hlower : lowerChar c = [c]) (hc : c.isAlpha = false) : Widget.ofTag? tag = none := by
  have hall : ∀ w ∈ Widget.all, ∀ t ∈ w.tags, t.toList.head?.all Char.isAlpha = true := by decide
  obtain ⟨rest, hrest⟩ := List.head?_eq_some_iff.mp htag
  rw [Widget.ofTag?, List.find?_eq_none]
  intro w hw hmem
  have hstart := hall w hw _ (List.contains_iff_mem.mp hmem)
  rw [Widget.normalTag, String.toList_ofList, hrest, lowerEach, List.flatMap_cons, hlower] at hstart
  simp [hc] at hstart

/-- **What is written of a type that is no text is no known tag.** -/
theorem ofTag?_tagOfType {v? : Option Json.Value} (h : ∀ s, v? ≠ some (.string s)) :
    Widget.ofTag? (tagOfType v?) = none := by
  have hempty : Widget.ofTag? "" = none := by decide
  cases v? with
  | none => exact hempty
  | some v =>
    cases v with
    | null => exact hempty
    | bool b =>
      have htags : Widget.ofTag? "true" = none ∧ Widget.ofTag? "false" = none := by decide
      cases b with
      | true => exact htags.1
      | false => exact htags.2
    | number n =>
      -- The sign of a numeral is a separator of tags, and behind it comes a digit.
      obtain ⟨negative, cs, hchars, ⟨c, rest, rfl, hdigit⟩, -⟩ := n.exists_numeral
      have hpart : isIdentifierPart c = true := by
        simp [isIdentifierPart, Char.isAlphanum, hdigit]
      have hplain := forall_isIdentifierPart (p := fun c => c.isDigit = true →
        Widget.isTagSeparator c = false ∧ asciiLower c = c ∧ c.isAlpha = false) (by decide) hpart
        hdigit
      refine ofTag?_eq_none_of_start (c := c) ?_ ?_ hplain.2.2
      · show ((Json.Value.number n).compact.toList.filter _).head? = _
        rw [Json.Value.compact, String.toList_ofList, Json.Value.compactBefore, List.append_nil,
          hchars, List.filter_append, List.filter_cons_of_pos (by simp [hplain.1])]
        cases negative <;> rfl
      · rw [(cases_of_isIdentifierPart hpart).1, hplain.2.1]
    | string s => exact absurd rfl (h s)
    | array items =>
      refine ofTag?_eq_none_of_start (c := '[') ?_ rfl rfl
      show ((Json.Value.array items).compact.toList.filter _).head? = _
      rw [Json.Value.compact, String.toList_ofList, Json.Value.compactBefore,
        List.filter_cons_of_pos rfl]
      rfl
    | object members =>
      refine ofTag?_eq_none_of_start (c := '\x7b') ?_ rfl rfl
      show ((Json.Value.object members).compact.toList.filter _).head? = _
      rw [Json.Value.compact, String.toList_ofList, Json.Value.compactBefore,
        List.filter_cons_of_pos rfl]
      rfl

end EntitySlice
