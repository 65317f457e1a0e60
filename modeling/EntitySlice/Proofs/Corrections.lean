import EntitySlice.Proofs.Relocation
import EntitySlice.Proofs.SameCode

/-!
# Following the warnings

A warning says what a schema was taken for: the name that stands for a supplied value, or that a
field is edited as a text. A schema that says so itself (`followed`) is planned without warnings,
and nothing changes but the copy of the schema (`plan_followed`). The reason is that names are
settled once they are resolved, that the tag it is told gives a field the widget it has anyway, and
that the code of a slice knows the fields by their meaning alone.
-/

namespace EntitySlice

open EntitySlice.Json EntitySlice.Slice EntitySlice.Source EntitySlice.Text

/-! ## Following a warning -/

/-- The naming block with the name that a warning tells. -/
def Warning.correct (block : Json.Members) : Warning → Json.Members
  | .corrected key _ resolved => block.insert key (.string resolved)
  | .unknownTag .. => block

/-- The field that a warning is about. -/
def Warning.field? : Warning → Option String
  | .unknownTag field _ => some field
  | .corrected .. => none

/-- The name of the field that an item of the field list describes. -/
def itemName? : Json.Value → Option String
  | .object members => (Members.get? members "name").bind Json.Value.string?
  | .array items => items.head?.bind Json.Value.string?
  | _ => none

/-- An item of the field list with another tag. -/
def withTag (tag : String) : Json.Value → Json.Value
  | .object members => .object (Members.insert "type" (.string tag) members)
  | .array items => .array (items.set 1 (.string tag))
  | item => item

/-- An item of the field list with the tag of texts, if a warning is about its field. -/
def followedItem (ws : List Warning) (item : Json.Value) : Json.Value :=
  if (itemName? item).any fun name => ws.any (·.field? = some name) then withTag "STRING" item
  else item

/-- A naming block with all names that warnings tell. -/
def followedNames (ws : List Warning) : Json.Value → Json.Value
  | .object block => .object (ws.foldl Warning.correct block)
  | v => v

/-- A field list with the tag of texts wherever warnings ask for it. -/
def followedFields (ws : List Warning) : Json.Value → Json.Value
  | .array items => .array (items.map (followedItem ws))
  | v => v

/-- A document with what the warnings about it tell. -/
def followed (ws : List Warning) : Json.Value → Json.Value
  | .object members =>
    .object (Members.modify fieldsKey (followedFields ws)
      (Members.modify namingKey (followedNames ws) members))
  | v => v

theorem get?_followed_naming (ws : List Warning) (v : Json.Value) :
    (followed ws v).get? namingKey = (v.get? namingKey).map (followedNames ws) := by
  cases v with
  | object members =>
    show Members.get? (Members.modify fieldsKey _ (Members.modify _ _ members)) namingKey = _
    rw [Members.get?_modify_of_ne (by decide), Members.get?_modify_self]
    rfl
  | _ => rfl

theorem get?_followed_fields (ws : List Warning) (v : Json.Value) :
    (followed ws v).get? fieldsKey = (v.get? fieldsKey).map (followedFields ws) := by
  cases v with
  | object members =>
    show Members.get? (Members.modify fieldsKey _ (Members.modify _ _ members)) fieldsKey = _
    rw [Members.get?_modify_self, Members.get?_modify_of_ne (by decide)]
    rfl
  | _ => rfl

/-- **A followed document can be written** if the document can. -/
theorem writable_followed {room : Nat} {v : Json.Value} (h : v.Writable room) (ws : List Warning) :
    (followed ws v).Writable room := by
  have hnames (n : Nat) (v : Json.Value) (hv : v.Writable n) : (followedNames ws v).Writable n := by
    cases v with
    | object block =>
      rw [followedNames]
      induction ws generalizing block with
      | nil => exact hv
      | cons w ws ih =>
        cases w with
        | corrected key supplied resolved => exact ih _ (hv.insert key resolved)
        | unknownTag field tag => exact ih _ hv
    | _ => exact hv
  have hitem (n : Nat) (v : Json.Value) (hv : v.Writable n) : (followedItem ws v).Writable n := by
    rw [followedItem]
    split
    · cases v with
      | object members => exact hv.insert _ _
      | array items => exact hv.set _ _
      | _ => exact hv
    · exact hv
  have hfields (n : Nat) (v : Json.Value) (hv : v.Writable n) :
      (followedFields ws v).Writable n := by
    cases v with
    | array items => exact hv.map hitem
    | _ => exact hv
  cases v with
  | object members => exact (h.modify namingKey hnames).modify fieldsKey hfields
  | _ => exact h

/-! ## Settled names -/

/-- The block with the names of some entries wherever they were not supplied so. -/
def corrected (block : Json.Members) (entries : List NameEntry) : Json.Members :=
  (entries.filterMap NameEntry.warning?).foldl Warning.correct block

theorem corrected_cons (block : Json.Members) (n : NameEntry) (entries : List NameEntry) :
    corrected block (n :: entries) = corrected
      (if n.supplied = n.resolved then block else block.insert n.key (.string n.resolved))
      entries := by
  by_cases h : n.supplied = n.resolved
  · have hw : n.warning? = none := if_pos h
    rw [if_pos h, corrected, List.filterMap_cons_none hw]
    rfl
  · have hw : n.warning? = some (.corrected n.key n.supplied n.resolved) := if_neg h
    rw [if_neg h, corrected, List.filterMap_cons_some hw]
    rfl

theorem get?_corrected_of_notMem {key : String} {entries : List NameEntry}
    (h : key ∉ entries.map NameEntry.key) (block : Json.Members) :
    (corrected block entries).get? key = block.get? key := by
  induction entries generalizing block with
  | nil => rfl
  | cons n entries ih =>
    rw [List.map_cons, List.mem_cons, not_or] at h
    rw [corrected_cons, ih h.2]
    split
    · rfl
    · exact Members.get?_insert_of_ne h.1 _ _

/-- **Every name is found at its key in the end**, if no two entries have the same key. -/
theorem get?_corrected {n : NameEntry} {entries : List NameEntry}
    (hkeys : (entries.map NameEntry.key).Nodup) (hn : n ∈ entries) (block : Json.Members) :
    (corrected block entries).get? n.key =
      if n.supplied = n.resolved then block.get? n.key else some (.string n.resolved) := by
  induction entries generalizing block with
  | nil => simp at hn
  | cons m entries ih =>
    rw [List.map_cons, List.nodup_cons] at hkeys
    rw [corrected_cons]
    rcases List.mem_cons.mp hn with rfl | hn
    · rw [get?_corrected_of_notMem hkeys.1]
      split
      · rfl
      · exact Members.get?_insert_self _ _ _
    · have hne : n.key ≠ m.key := fun he => hkeys.1 (he ▸ List.mem_map_of_mem hn)
      have hblock : (if m.supplied = m.resolved then block
          else block.insert m.key (.string m.resolved)).get? n.key = block.get? n.key := by
        split
        · rfl
        · exact Members.get?_insert_of_ne hne _ _
      rw [ih hkeys.2 hn, hblock]

namespace Supplied

variable {keys : NamingKeys} {block : Json.Members} {s : Supplied}

/-- The values when all names are in form. -/
def settled (s : Supplied) : Supplied where
  plural := s.naming.plural
  pluralLower := s.naming.pluralLower
  singular := s.naming.singular
  singularLower? := s.singularLower?.map fun _ => s.naming.singularLower
  generateFolder := s.generateFolder

/-- Names that are in form stand for themselves. -/
theorem naming_settled (h : s.Reads keys block) : s.settled.naming = s.naming := by
  have hplural := isEntityName_capitalizeAscii (isEntityName_of_suppliedName h.plural)
  have hsingular := isEntityName_capitalizeAscii (isEntityName_of_suppliedName h.singular)
  show (⟨capitalizeAscii (capitalizeAscii s.plural), capitalizeAscii (capitalizeAscii s.singular),
    s.generateFolder⟩ : Naming) = s.naming
  rw [hplural.2, hsingular.2]
  rfl

/-- There is nothing to say about names in form. -/
theorem warnings_settled (h : s.Reads keys block) : s.settled.warnings keys = [] := by
  rw [warnings, List.filterMap_eq_nil_iff]
  intro n hn
  have hsame : n.supplied = n.resolved := by
    rw [entries, naming_settled h, List.mem_append] at hn
    rcases hn with hn | hn
    · simp only [List.mem_cons, List.not_mem_nil, or_false] at hn
      rcases hn with rfl | rfl | rfl <;> rfl
    · obtain ⟨l, hl, rfl⟩ := List.mem_map.mp hn
      obtain ⟨_, -, rfl⟩ := Option.map_eq_some_iff.mp (Option.mem_toList.mp hl)
      rfl
  exact if_pos hsame

theorem keys_entries (s : Supplied) :
    ((s.entries keys).map NameEntry.key).Sublist
      [keys.plural, keys.singular, keys.pluralLower, keys.singularLower] := by
  rw [entries]
  cases s.singularLower? <;> simp

/-- **A block with the names in form supplies them in form.** -/
theorem reads_settled (hkeys : keys.all.Nodup) (h : s.Reads keys block) :
    s.settled.Reads keys (corrected block (s.entries keys)) := by
  have hperm : keys.all.Perm ([keys.plural, keys.singular, keys.pluralLower, keys.singularLower]
      ++ [keys.generateFolder]) :=
    .cons _ (.swap _ _ _)
  obtain ⟨hfour, -, hflag⟩ := List.nodup_append.mp (hperm.nodup_iff.mp hkeys)
  have hnodup := hfour.sublist s.keys_entries
  have hplural := isEntityName_capitalizeAscii (isEntityName_of_suppliedName h.plural)
  have hsingular := isEntityName_capitalizeAscii (isEntityName_of_suppliedName h.singular)
  have hget {n : NameEntry} (hn : n ∈ s.entries keys) := get?_corrected hnodup hn block
  constructor
  case plural =>
    exact suppliedName_settled h.plural (hget (n := ⟨_, _, s.naming.plural⟩) (by simp [entries]))
      hplural.1
  case pluralLower =>
    exact requiredText_settled h.pluralLower
      (hget (n := ⟨_, _, s.naming.pluralLower⟩) (by simp [entries])) (isTrim_smallLetters hplural.1)
  case singular =>
    exact suppliedName_settled h.singular
      (hget (n := ⟨_, _, s.naming.singular⟩) (by simp [entries])) hsingular.1
  case singularLower =>
    have hlower := h.singularLower
    cases hs : s.singularLower? with
    | none =>
      have hthree : ([keys.plural, keys.singular, keys.pluralLower]
          ++ [keys.singularLower]).Nodup := hfour
      have hnew : keys.singularLower ∉ (s.entries keys).map NameEntry.key := by
        rw [entries, hs]
        exact fun hmem => List.disjoint_of_nodup_append hthree hmem (List.mem_singleton_self _)
      rw [optionalText_congr (get?_corrected_of_notMem hnew block), hlower, settled, hs]
      rfl
    | some l =>
      rw [hs] at hlower
      rw [settled, hs]
      exact optionalText_settled hlower
        (hget (n := ⟨_, _, s.naming.singularLower⟩) (by simp [entries, hs]))
        (isTrim_smallLetters hsingular.1)
  case generateFolder =>
    have hnew : keys.generateFolder ∉ (s.entries keys).map NameEntry.key := fun hmem =>
      hflag _ (s.keys_entries.mem hmem) _ (List.mem_singleton_self _) rfl
    rw [flagAt_congr (get?_corrected_of_notMem hnew block)]
    exact h.generateFolder

end Supplied

/-- **Names that were resolved resolve to themselves**, and there is nothing to say about them. -/
theorem resolve_corrected {keys : NamingKeys} (hkeys : keys.all.Nodup) {block : Json.Members}
    {n : Naming} {ws : List Warning} (h : Naming.resolve keys block = .ok (n, ws)) :
    Naming.resolve keys (ws.foldl Warning.correct block) = .ok (n, []) := by
  obtain ⟨s, hs, hfolder, rfl, rfl⟩ := resolve_eq_ok_iff.mp h
  refine resolve_eq_ok_iff.mpr ⟨s.settled, Supplied.reads_settled hkeys hs, ?_, ?_, ?_⟩
  · rw [Supplied.naming_settled hs]
    exact hfolder
  · exact (Supplied.naming_settled hs).symm
  · exact (Supplied.warnings_settled hs).symm

/-! ## Settled tags -/

/-- The description with the tag of texts, if its own means nothing. -/
def FieldSpec.settled (f : FieldSpec) : FieldSpec :=
  if f.warning?.isSome then { f with tag := "STRING" } else f

theorem FieldSpec.name_settled (f : FieldSpec) : f.settled.name = f.name := by
  rw [settled]
  split <;> rfl

theorem FieldSpec.warning?_settled (f : FieldSpec) : f.settled.warning? = none := by
  rw [settled]
  split
  · have htag : Widget.ofTag? "STRING" = some .text := by decide
    rw [warning?]
    simp only [htag]
  · next h => simpa using h

/-- A text by an unknown tag is a text. -/
theorem FieldSpec.meaning_settled (f : FieldSpec) : f.settled.meaning = f.meaning := by
  rw [settled]
  split
  · next h =>
    have hnone : Widget.ofTag? f.tag = none := by
      cases htag : Widget.ofTag? f.tag with
      | none => rfl
      | some w => simp [warning?, htag] at h
    have htag : Widget.ofTag? "STRING" = some .text := by decide
    have hwidget : f.widget = .text := by rw [widget, hnone]; rfl
    have hsettled : ({ f with tag := "STRING" } : FieldSpec).widget = .text := by
      rw [widget, htag]; rfl
    rw [meaning, meaning, hwidget, hsettled]
    rfl
  · rfl

theorem textOf_eq_ok_iff {v : Json.Value} {s : String} : textOf v = .ok s ↔ v = .string s := by
  cases v <;> simp [textOf]

/-- What an array says that describes a field. -/
theorem exists_items_of_fieldOfItems {items : List Json.Value} {f : FieldSpec}
    (h : fieldOfItems items = .ok f) : ∃ rest : List Json.Value,
      items = .string f.name :: .string f.tag :: rest ∧ optionsAt rest[0]? = .ok f.options? ∧
        flagAtPlace rest[1]? = .ok f.required? ∧ rest.length ≤ 2 := by
  unfold fieldOfItems at h
  split at h
  · simp at h
  · next nameItem rest =>
    split at h
    · simp at h
    · simp at h
    · next name tagItem rest hname =>
      obtain ⟨tag, htag, h⟩ := exists_of_bind_eq_ok h
      obtain ⟨options?, hoptions, h⟩ := exists_of_bind_eq_ok h
      obtain ⟨required?, hrequired, h⟩ := exists_of_bind_eq_ok h
      obtain rfl := textOf_eq_ok_iff.mp hname
      obtain rfl := textOf_eq_ok_iff.mp htag
      by_cases hlength : 2 < rest.length
      · rw [if_pos hlength] at h
        obtain ⟨_, h, -⟩ := exists_of_bind_eq_ok h
        simp [throw, throwThe, MonadExceptOf.throw] at h
      · rw [if_neg hlength] at h
        obtain rfl := Except.ok.inj h
        exact ⟨rest, rfl, hoptions, hrequired, by omega⟩

/-- The name of a field is found in its item. -/
theorem itemName?_of_ofValue {item : Json.Value} {f : FieldSpec}
    (h : FieldSpec.ofValue item = .ok f) : itemName? item = some f.name := by
  cases item with
  | object members =>
    rw [FieldSpec.ofValue, fieldOfMembers] at h
    split at h
    · simp at h
    · next v hv =>
      split at h
      · simp at h
      · next name hname =>
        obtain rfl := Except.ok.inj h
        obtain rfl := textOf_eq_ok_iff.mp hname
        rw [itemName?, hv]
        rfl
  | array items =>
    obtain ⟨rest, rfl, -⟩ := exists_items_of_fieldOfItems h
    rfl
  | _ => simp [FieldSpec.ofValue] at h

/-- An item with another tag describes the field with that tag. -/
theorem ofValue_withTag {item : Json.Value} {f : FieldSpec} (h : FieldSpec.ofValue item = .ok f)
    (tag : String) : FieldSpec.ofValue (withTag tag item) = .ok { f with tag := tag } := by
  cases item with
  | object members =>
    rw [FieldSpec.ofValue, fieldOfMembers] at h
    rw [withTag, FieldSpec.ofValue, fieldOfMembers, Members.get?_insert_self,
      Members.get?_insert_of_ne (by decide), Members.get?_insert_of_ne (by decide),
      Members.get?_insert_of_ne (by decide)]
    split at h
    · simp at h
    · next v hv =>
      split at h
      · simp at h
      · next name hname =>
        obtain rfl := Except.ok.inj h
        rfl
  | array items =>
    obtain ⟨rest, rfl, hoptions, hrequired, hlength⟩ := exists_items_of_fieldOfItems h
    have hshort : ¬2 < rest.length := by omega
    show fieldOfItems (.string f.name :: .string tag :: rest) = _
    simp only [fieldOfItems, textOf, hoptions, hrequired, bind, Except.bind, if_neg hshort]
    rfl
  | _ => simp [FieldSpec.ofValue] at h

theorem ofValue_followedItem {ws : List Warning} {item : Json.Value} {f : FieldSpec}
    (h : FieldSpec.ofValue item = .ok f)
    (hws : ws.any (·.field? = some f.name) = f.warning?.isSome) :
    FieldSpec.ofValue (followedItem ws item) = .ok f.settled := by
  rw [followedItem, itemName?_of_ofValue h, Option.any_some, hws, FieldSpec.settled]
  split
  · exact ofValue_withTag h _
  · exact h

/-- Whether an item is accepted depends on the name of its field. -/
theorem fieldAt_of_name {seen : List String} {index : Nat} {item item' : Json.Value}
    {f f' : FieldSpec} (h : fieldAt seen index item = .ok f)
    (hitem' : FieldSpec.ofValue item' = .ok f') (hname : f'.name = f.name) :
    fieldAt seen index item' = .ok f' := by
  obtain ⟨-, hnew⟩ := fieldAt_eq_ok_iff.mp h
  exact fieldAt_eq_ok_iff.mpr ⟨hitem', hname ▸ hnew⟩

/-- A field list stays one when its items describe other fields with the same names. -/
theorem fieldsOfItems_map {g : Json.Value → Json.Value} {k : FieldSpec → FieldSpec}
    (hname : ∀ f, (k f).name = f.name) {seen : List String} {items : List Json.Value}
    {fs : List FieldSpec} (h : fieldsOfItems seen items = .ok fs)
    (hg : ∀ item, ∀ f ∈ fs, FieldSpec.ofValue item = .ok f →
      FieldSpec.ofValue (g item) = .ok (k f)) :
    fieldsOfItems seen (items.map g) = .ok (fs.map k) := by
  induction items generalizing seen fs with
  | nil =>
    obtain rfl := Except.ok.inj h
    rfl
  | cons item rest ih =>
    rw [fieldsOfItems] at h
    obtain ⟨f, hf, h⟩ := exists_of_bind_eq_ok h
    obtain ⟨gs, hgs, h⟩ := exists_of_bind_eq_ok h
    obtain rfl := Except.ok.inj h
    have hitem := hg item f List.mem_cons_self (fieldAt_eq_ok_iff.mp hf).1
    have hrest := ih hgs fun item f hmem => hg item f (List.mem_cons_of_mem _ hmem)
    rw [List.map_cons, fieldsOfItems, fieldAt_of_name hf hitem (hname f)]
    simp only [bind, Except.bind, hname, hrest]
    rfl

/-! ## Plans -/

/-- No warning about a name is about a field. -/
theorem field?_of_mem_resolve {keys : NamingKeys} {block : Json.Members} {n : Naming}
    {ws : List Warning} (h : Naming.resolve keys block = .ok (n, ws)) :
    ∀ w ∈ ws, w.field? = none := by
  obtain ⟨s, -, -, -, rfl⟩ := resolve_eq_ok_iff.mp h
  intro w hw
  obtain ⟨e, -, he⟩ := List.mem_filterMap.mp hw
  rw [NameEntry.warning?, corrected?] at he
  split at he
  · simp at he
  · rw [← Option.some.inj he]
    rfl

/-- A field is warned about by its name when its own tag is unknown. -/
theorem any_field?_iff {ns : List Warning} (hns : ∀ w ∈ ns, w.field? = none)
    {specs : List FieldSpec} (hnodup : (specs.map FieldSpec.name).Nodup) {f : FieldSpec}
    (hf : f ∈ specs) :
    (ns ++ fieldWarnings specs).any (·.field? = some f.name) = f.warning?.isSome := by
  have hfield (g : FieldSpec) (w : Warning) (hw : g.warning? = some w) :
      w.field? = some g.name := by
    rw [FieldSpec.warning?] at hw
    split at hw
    · simp at hw
    · rw [← Option.some.inj hw]
      rfl
  rw [Bool.eq_iff_iff, List.any_eq_true]
  constructor
  · rintro ⟨w, hw, hname⟩
    have hname := of_decide_eq_true hname
    rcases List.mem_append.mp hw with hw | hw
    · simp [hns w hw] at hname
    · obtain ⟨g, hg, hgw⟩ := List.mem_filterMap.mp hw
      rw [hfield g w hgw] at hname
      obtain rfl := List.inj_on_of_nodup_map hnodup hg hf (Option.some.inj hname)
      rw [hgw]
      rfl
  · intro hsome
    obtain ⟨w, hw⟩ := Option.isSome_iff_exists.mp hsome
    refine ⟨w, List.mem_append_right _ (List.mem_filterMap.mpr ⟨f, hf, hw⟩), ?_⟩
    exact decide_eq_true (hfield f w hw)

/-- Warnings about fields leave the names alone. -/
theorem foldl_correct_fieldWarnings (specs : List FieldSpec) (block : Json.Members) :
    (fieldWarnings specs).foldl Warning.correct block = block := by
  induction specs with
  | nil => rfl
  | cons f specs ih =>
    cases hw : f.warning? with
    | none =>
      rw [fieldWarnings, List.filterMap_cons_none hw]
      exact ih
    | some w =>
      rw [fieldWarnings, List.filterMap_cons_some hw, List.foldl_cons]
      rw [FieldSpec.warning?] at hw
      split at hw
      · simp at hw
      · rw [← Option.some.inj hw]
        exact ih

/-- The fields of a followed field list are settled. -/
theorem fieldsOf_followed {ns : List Warning} (hns : ∀ w ∈ ns, w.field? = none)
    {list? : Option Json.Value} {specs : List FieldSpec} (h : fieldsOf list? = .ok specs) :
    fieldsOf (list?.map (followedFields (ns ++ fieldWarnings specs))) =
      .ok (specs.map FieldSpec.settled) := by
  unfold fieldsOf at h
  split at h
  · obtain rfl := Except.ok.inj h
    rfl
  · obtain rfl := Except.ok.inj h
    rfl
  · next items =>
    have hnodup := (fieldsOfItems_eq_ok_iff.mp h).2.1
    refine fieldsOfItems_map FieldSpec.name_settled h fun item f hf hitem => ?_
    exact ofValue_followedItem hitem (any_field?_iff hns hnodup hf)
  · simp at h

/-- **A document in which the warnings are followed is prepared without warnings.** -/
theorem prepare_followed {keys : NamingKeys} (hkeys : keys.all.Nodup) {text : String} {e : Entity}
    {ws : List Warning} (h : prepare keys text = .ok (e, ws)) :
    ∃ specs : List FieldSpec, e.fields = Field.ofSpecs specs ∧ ∀ text',
      Json.parse? text' = some (followed ws e.document) →
        prepare keys text' = .ok (⟨e.naming, Field.ofSpecs (specs.map FieldSpec.settled),
          followed ws e.document⟩, []) := by
  obtain ⟨s, n, ns, hs, hn, rfl, rfl⟩ := exists_schema_of_prepare h
  obtain ⟨hnaming, hfields⟩ := document_of_parse hs
  refine ⟨s.fields, rfl, fun text' htext' => ?_⟩
  have hblock : (followed (ns ++ fieldWarnings s.fields) s.document).get? namingKey =
      some (.object (ns.foldl Warning.correct s.naming)) := by
    rw [get?_followed_naming, hnaming, Option.map_some, followedNames, List.foldl_append,
      foldl_correct_fieldWarnings]
  have hlist : fieldsOf ((followed (ns ++ fieldWarnings s.fields) s.document).get? fieldsKey) =
      .ok (s.fields.map FieldSpec.settled) := by
    rw [get?_followed_fields]
    exact fieldsOf_followed (field?_of_mem_resolve hn) hfields
  have hsilent : fieldWarnings (s.fields.map FieldSpec.settled) = [] := by
    rw [fieldWarnings, List.filterMap_map, List.filterMap_eq_nil_iff]
    intro f _
    rw [Function.comp_apply, FieldSpec.warning?_settled]
  have hdocument : (s.entity n).document = s.document := rfl
  rw [hdocument] at htext' ⊢
  rw [prepare_eq htext' hblock, hlist, resolve_corrected hkeys hn]
  simp only [Except.mapError, bind, Except.bind, List.nil_append, hsilent]
  rfl

/--
**Following the warnings settles a schema and leaves its code alone.** A schema that says what the
warnings about another one tell is planned without warnings, under the same names and with the same
files but for the copy of the schema; there is one if the floating-point numbers of the first schema
read back. And whenever two schemas have the same names and fields with the same meanings, they have
the same files but for the copy of the schema.
-/
theorem plan_followed {keys : NamingKeys} (hkeys : keys.all.Nodup) {text : String} {p : Plan}
    (h : plan keys text = .ok p) :
    (p.entity.document.FloatsReadBack →
      Json.parse? ((followed p.warnings p.entity.document).indented ++ "\n") =
        some (followed p.warnings p.entity.document)) ∧
    (∀ text', Json.parse? text' = some (followed p.warnings p.entity.document) →
      ∃ q, plan keys text' = .ok q ∧ q.warnings = [] ∧ SameCode p q) ∧
    ∀ (keys' : NamingKeys) (text' : String) (q : Plan), plan keys' text' = .ok q →
      p.entity.naming = q.entity.naming →
      p.entity.fields.map Field.meaning = q.entity.fields.map Field.meaning → SameCode p q := by
  refine ⟨fun hx => ?_, fun text' htext' => ?_, fun keys' text' q hq hnaming hfields =>
    sameCode_of_meaning h hq hnaming hfields⟩
  · have hreadable := readable_of_parse? (parse?_of_plan h)
    exact (writable_followed ⟨hreadable, hx⟩ p.warnings).parse?
  · obtain ⟨specs, hspecs, hfollowed⟩ := prepare_followed hkeys (plan_eq_ok_iff.mp h).1
    have hq := plan_of_prepare (hfollowed text' htext')
    have hmeaning : FieldSpec.meaning ∘ FieldSpec.settled = FieldSpec.meaning :=
      funext FieldSpec.meaning_settled
    have hfields : p.entity.fields.map Field.meaning =
        (Field.ofSpecs (specs.map FieldSpec.settled)).map Field.meaning := by
      rw [hspecs, map_meaning_ofSpecs, map_meaning_ofSpecs, List.map_map, hmeaning]
    exact ⟨_, hq, rfl, sameCode_of_meaning h hq rfl hfields⟩

theorem plan_followed_flagged :
    ∃ p q, plan {} ((flaggedSchema (.bool true)).indented ++ "\n") = .ok p ∧
      p.warnings.length = 3 ∧
      plan {} ((followed p.warnings p.entity.document).indented ++ "\n") = .ok q ∧
      q.warnings = [] ∧ SameCode p q := by
  have hplan := plan_of_prepare (prepare_flaggedSchema (fun _ => Value.writable_bool true) rfl)
  have hkeys : (NamingKeys.all {}).Nodup := by decide
  obtain ⟨hwritten, hfollowed, -⟩ := plan_followed hkeys hplan
  obtain ⟨q, hq, hwarnings, hcode⟩ :=
    hfollowed _ (hwritten (writable_flaggedSchema fun _ => Value.writable_bool true).floats)
  exact ⟨_, q, hplan, rfl, hq, hwarnings, hcode⟩

end EntitySlice
