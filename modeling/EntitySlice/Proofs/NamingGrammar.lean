import EntitySlice.Proofs.Grammar
import EntitySlice.Proofs.NamingBlocks

/-!
# The grammar of naming blocks

A naming block has to have a plural, the plural in small letters and a singular; the singular in
small letters and the flag may be left out (`NamingForm`). The values are checked one after the
other, and a block that is not in form is refused for the first check that fails (`NamingCheck`,
`NamingCheck.Reports`). That the plural is also the name of a folder is a check of its own, which
leaves it no underscore to start with (`ofForm_plural_iff`). What the names and the warnings are is
said by `Naming.StandsFor`.
-/

namespace EntitySlice

open EntitySlice.Source EntitySlice.Text

/-! ## Values at a key -/

/-- Whether the value at a key is a text with these characters between its blanks. -/
def TextAt (block : Json.Members) (key text : String) : Prop :=
  ∃ s, block.get? key = some (.string s) ∧ trim s = text ∧ text ≠ ""

/-- Whether a key has no value: none at all, null, or a text of blanks. -/
def Lacks (block : Json.Members) (key : String) : Prop :=
  ∀ v, block.get? key = some v → v = .null ∨ ∃ s, v = .string s ∧ trim s = ""

/--
Which flag is read of a value: a truth value, or a word for one in capital or small letters. Without
a value the flag is not set.
-/
inductive FolderFlagOf : Option Json.Value → Bool → Prop
  | missing : FolderFlagOf none false
  | null : FolderFlagOf (some .null) false
  | bool (b : Bool) : FolderFlagOf (some (.bool b)) b
  | empty : FolderFlagOf (some (.string "")) false
  | yes {s : String} (h : smallLetters s = "true") : FolderFlagOf (some (.string s)) true
  | no {s : String} (h : smallLetters s = "false") : FolderFlagOf (some (.string s)) false

section

variable {block : Json.Members} {key text : String} {x : NamingFault}

theorem TextAt.unique {text' : String} (h : TextAt block key text) (h' : TextAt block key text') :
    text = text' := by
  obtain ⟨s, hs, rfl, -⟩ := h
  obtain ⟨s', hs', rfl, -⟩ := h'
  rw [hs] at hs'
  rw [Json.Value.string.inj (Option.some.inj hs')]

theorem Lacks.not_textAt (h : Lacks block key) : ¬TextAt block key text := by
  rintro ⟨s, hs, rfl, hne⟩
  rcases h _ hs with hnull | ⟨s', hs', hblank⟩
  · simp at hnull
  · exact hne (Json.Value.string.inj hs' ▸ hblank)

/-- What is read at a key is its text, or nothing when it lacks a value; all else is refused. -/
theorem optionalText_cases (block : Json.Members) (key : String) :
    (∃ text, optionalText block key = .ok (some text) ∧ TextAt block key text) ∨
      (optionalText block key = .ok none ∧ Lacks block key) ∨
        ∃ v, optionalText block key = .error (.invalid key v.compact .notString) ∧
          block.get? key = some v ∧ v ≠ .null ∧ ∀ s, v ≠ .string s := by
  unfold optionalText
  split
  · next h => exact .inr (.inl ⟨rfl, fun v hv => by simp [h] at hv⟩)
  · next h => exact .inr (.inl ⟨rfl, fun v hv => .inl (Option.some.inj (h ▸ hv)).symm⟩)
  · next s h =>
    by_cases hs : trim s = ""
    · exact .inr (.inl ⟨by rw [if_pos hs],
        fun v hv => .inr ⟨s, (Option.some.inj (h ▸ hv)).symm, hs⟩⟩)
    · exact .inl ⟨trim s, by rw [if_neg hs], s, h, rfl, hs⟩
  · next v hnull htext h => exact .inr (.inr ⟨v, rfl, h, hnull, htext⟩)

theorem textAt_iff : TextAt block key text ↔ optionalText block key = .ok (some text) := by
  rcases optionalText_cases block key with ⟨t, ht, h⟩ | ⟨ht, h⟩ | ⟨v, ht, hv, -, h⟩
  · rw [ht, Except.ok.injEq, Option.some.injEq]
    exact ⟨h.unique, fun he => he ▸ h⟩
  · simp [ht, h.not_textAt]
  · rw [ht]
    refine ⟨?_, by simp⟩
    rintro ⟨s, hs, -⟩
    exact absurd (Option.some.inj (hv.symm.trans hs)) (h s)

theorem isWord_iff {word s : String} : isWord word s = true ↔ smallLetters s = word := by
  rw [isWord, beq_iff_eq, smallLetters, ← String.toList_inj, String.toList_ofList]

theorem folderFlagOf_iff {b : Bool} :
    FolderFlagOf (block.get? key) b ↔ flagAt block key = .ok b := by
  unfold flagAt
  constructor
  · intro h
    generalize block.get? key = v? at h
    cases h with
    | yes h => simp only [isWord_iff.mpr h, if_true]
    | @no s h =>
      have htrue : isWord "true" s = false := by
        rw [← Bool.not_eq_true, isWord_iff, h]
        decide
      simp only [htrue, isWord_iff.mpr h, Bool.true_or, if_true, Bool.false_eq_true, if_false]
    | _ => rfl
  · intro h
    split at h
    · next hv => exact hv ▸ Except.ok.inj h ▸ .missing
    · next hv => exact hv ▸ Except.ok.inj h ▸ .null
    · next hv => exact hv ▸ Except.ok.inj h ▸ .bool _
    · next s hv =>
      rw [hv]
      split at h
      · next hyes => exact Except.ok.inj h ▸ .yes (isWord_iff.mp hyes)
      · split at h
        · next hno =>
          rw [Bool.or_eq_true, isWord_iff, decide_eq_true_eq] at hno
          rcases hno with hno | rfl
          · exact Except.ok.inj h ▸ .no hno
          · exact Except.ok.inj h ▸ .empty
        · simp at h
    · simp at h

/-- What is refused as a flag is none. -/
theorem flagAt_eq_error (h : flagAt block key = .error x) :
    (∀ b, ¬FolderFlagOf (block.get? key) b) ∧
      ∃ v, block.get? key = some v ∧ x = .invalid key v.compact .notFlag := by
  refine ⟨fun b hb => ?_, ?_⟩
  · rw [folderFlagOf_iff.mp hb] at h
    simp at h
  · unfold flagAt at h
    split at h
    · simp at h
    · simp at h
    · simp at h
    · next hv =>
      split at h
      · simp at h
      · split at h
        · simp at h
        · exact ⟨_, hv, (Except.error.inj h).symm⟩
    · next hv => exact ⟨_, hv, (Except.error.inj h).symm⟩

end

/-! ## Checks -/

/-- A check of the value at a key. -/
inductive NamingCheck
  /-- There is a text, and it is a name. -/
  | name (key : String)
  /-- There is a text. -/
  | text (key : String)
  /-- There is a text or no value. -/
  | optionalText (key : String)
  /-- The text makes a safe name of a folder. -/
  | folder (key : String)
  /-- There is a flag or no value. -/
  | flag (key : String)

namespace NamingCheck

/-- The checks of a naming block, in the order in which they are made. -/
def inOrder (keys : NamingKeys) : List NamingCheck :=
  [name keys.plural, text keys.pluralLower, name keys.singular, optionalText keys.singularLower,
    folder keys.plural, flag keys.generateFolder]

/-- The key of the value that is checked. -/
def key : NamingCheck → String
  | name key | text key | optionalText key | folder key | flag key => key

/-- Whether there must be a value. -/
def IsRequired : NamingCheck → Prop
  | name _ | text _ => True
  | _ => False

/-- Whether a value is read as a text. -/
def ReadsText : NamingCheck → Prop
  | name _ | text _ | optionalText _ => True
  | _ => False

/-- Whether a block passes a check. -/
def Holds (block : Json.Members) : NamingCheck → Prop
  | name key => ∃ s, TextAt block key s ∧ OfForm isKeyStart isKeyChar s
  | text key => ∃ s, TextAt block key s
  | optionalText key => ∀ v, block.get? key = some v → v = .null ∨ ∃ s, v = .string s
  | folder key =>
    ∀ s, TextAt block key s → OfForm isFolderStart isFolderPart (lower (capitalizeAscii s))
  | flag key => ∃ b, FolderFlagOf (block.get? key) b

/-- What is said of a block that fails a check. -/
inductive Reports (block : Json.Members) : NamingCheck → NamingFault → Prop
  | missing {c : NamingCheck} (hrequired : c.IsRequired) (h : Lacks block c.key) :
    Reports block c (.missing c.key)
  | notString {c : NamingCheck} {v : Json.Value} (hreads : c.ReadsText)
    (hv : block.get? c.key = some v) (hnull : v ≠ .null) (htext : ∀ s, v ≠ .string s) :
    Reports block c (.invalid c.key v.compact .notString)
  | notName {key s : String} (h : TextAt block key s) (hname : ¬OfForm isKeyStart isKeyChar s) :
    Reports block (name key) (.invalid key s .notIdentifier)
  | unsafeFolder {key s : String} (h : TextAt block key s)
    (hfolder : ¬OfForm isFolderStart isFolderPart (lower (capitalizeAscii s))) :
    Reports block (folder key)
      (.invalid key (capitalizeAscii s) (.unsafeFolder (lower (capitalizeAscii s))))
  | notFlag {key : String} {v : Json.Value} (hv : block.get? key = some v)
    (hflag : ∀ b, ¬FolderFlagOf (some v) b) :
    Reports block (flag key) (.invalid key v.compact .notFlag)

variable {block : Json.Members} {c : NamingCheck} {x : NamingFault}

/-- Only checks that fail have something to say. -/
theorem Reports.not_holds (h : c.Reports block x) : ¬c.Holds block := by
  cases h with
  | missing hrequired h =>
    cases c with
    | name key => exact fun ⟨s, hs, _⟩ => h.not_textAt hs
    | text key => exact fun ⟨s, hs⟩ => h.not_textAt hs
    | _ => exact hrequired.elim
  | notString hreads hv hnull htext =>
    have hnone {s : String} : ¬TextAt block c.key s := by
      rintro ⟨s', hs, -⟩
      exact htext s' (Option.some.inj (hv.symm.trans hs))
    cases c with
    | name key => exact fun ⟨s, hs, _⟩ => hnone hs
    | text key => exact fun ⟨s, hs⟩ => hnone hs
    | optionalText key =>
      intro hholds
      rcases hholds _ hv with h | ⟨s, h⟩
      · exact hnull h
      · exact htext s h
    | _ => exact hreads.elim
  | notName h hname => exact fun ⟨s, hs, hform⟩ => hname (h.unique hs ▸ hform)
  | unsafeFolder h hfolder => exact fun hform => hfolder (hform _ h)
  | notFlag hv hflag => exact fun ⟨b, hb⟩ => hflag b (hv ▸ hb)

/-- A value is reported missing when there must be one and there is none. -/
theorem Reports.missing_iff (h : c.Reports block x) :
    x = .missing c.key ↔ c.IsRequired ∧ Lacks block c.key := by
  cases h with
  | missing hrequired h => exact ⟨fun _ => ⟨hrequired, h⟩, fun _ => rfl⟩
  | notString hreads hv hnull htext =>
    refine ⟨fun h => by simp at h, fun ⟨_, hlacks⟩ => ?_⟩
    rcases hlacks _ hv with h | ⟨s, h, -⟩
    · exact absurd h hnull
    · exact absurd h (htext s)
  | notName h hname => exact ⟨fun h => by simp at h, fun ⟨_, hlacks⟩ => absurd h hlacks.not_textAt⟩
  | unsafeFolder => exact ⟨fun h => by simp at h, fun ⟨hrequired, _⟩ => hrequired.elim⟩
  | notFlag => exact ⟨fun h => by simp at h, fun ⟨hrequired, _⟩ => hrequired.elim⟩

/-! ### The readers make the checks -/

theorem reports_of_optionalText (hreads : c.ReadsText)
    (h : EntitySlice.optionalText block c.key = .error x) : c.Reports block x := by
  rcases optionalText_cases block c.key with ⟨t, ht, -⟩ | ⟨ht, -⟩ | ⟨v, ht, hv, hnull, htext⟩
  · simp [ht] at h
  · simp [ht] at h
  · rw [ht] at h
    exact Except.error.inj h ▸ .notString hreads hv hnull htext

theorem reports_of_requiredText (hrequired : c.IsRequired) (hreads : c.ReadsText)
    (h : requiredText block c.key = .error x) : c.Reports block x := by
  unfold requiredText at h
  rcases optionalText_cases block c.key with ⟨t, ht, -⟩ | ⟨ht, hlacks⟩ | ⟨v, ht, -⟩
  · simp [ht] at h
  · simp only [ht] at h
    exact Except.error.inj h ▸ .missing hrequired hlacks
  · simp only [ht] at h
    exact reports_of_optionalText hreads (ht.trans (congrArg _ (Except.error.inj h)))

theorem reports_of_suppliedName {key : String} (h : suppliedName block key = .error x) :
    (name key).Reports block x := by
  unfold suppliedName at h
  split at h
  · next s hs =>
    split at h
    · simp at h
    · next hname =>
      rw [isEntityName_iff] at hname
      exact Except.error.inj h ▸ .notName (textAt_iff.mpr (requiredText_eq_ok_iff.mp hs)) hname
  · next y hy =>
    exact reports_of_requiredText (c := name key) trivial trivial (Except.error.inj h ▸ hy)

theorem holds_of_suppliedName {key s : String} (h : suppliedName block key = .ok s) :
    (name key).Holds block := by
  obtain ⟨htext, hname⟩ := suppliedName_eq_ok_iff.mp h
  exact ⟨s, textAt_iff.mpr htext, isEntityName_iff.mp hname⟩

theorem holds_of_requiredText {key s : String} (h : requiredText block key = .ok s) :
    (text key).Holds block :=
  ⟨s, textAt_iff.mpr (requiredText_eq_ok_iff.mp h)⟩

theorem holds_of_optionalText {key : String} {s? : Option String}
    (h : EntitySlice.optionalText block key = .ok s?) : (optionalText key).Holds block := by
  intro v hv
  rcases optionalText_cases block key with ⟨t, -, s, hs, -⟩ | ⟨-, hlacks⟩ | ⟨w, hw, -⟩
  · exact .inr ⟨s, Option.some.inj (hv.symm.trans hs)⟩
  · exact (hlacks v hv).imp_right fun ⟨s, hs, _⟩ => ⟨s, hs⟩
  · simp [hw] at h

end NamingCheck

/-! ## Names in small letters -/

/-- Of an entity's name, the lower-case form is the name in small letters. -/
theorem lower_eq_smallLetters {s : String} (h : isEntityName s = true) :
    lower s = smallLetters s := by
  have hid : isIdentifier s = true := (Bool.and_eq_true_iff.mp h).1
  rw [lower, smallLetters,
    lowerChars_of_isIdentifierPart fun c hc => isIdentifierPart_of_mem hid hc]

/-- **A plural is a name that does not start with an underscore**: only then is it a folder's. -/
theorem ofForm_plural_iff {s : String} :
    OfForm isKeyStart isKeyChar s ∧
        OfForm isFolderStart isFolderPart (lower (capitalizeAscii s)) ↔
      OfForm Char.isAlpha isKeyChar s := by
  have hstart {c : Char} (hc : isKeyStart c = true) :
      isFolderStart (asciiLower (asciiUpper c)) = c.isAlpha := by
    have hpart : isIdentifierPart c = true := by
      simp only [isKeyStart, Bool.or_eq_true, decide_eq_true_eq] at hc
      rcases hc with hc | rfl
      · simp [isIdentifierPart, Char.isAlphanum, hc]
      · decide
    exact forall_isIdentifierPart (p := fun c => isKeyStart c = true →
      isFolderStart (asciiLower (asciiUpper c)) = c.isAlpha) (by decide) hpart hc
  have hother {c : Char} (hc : isKeyChar c = true) : isFolderPart (asciiLower c) = true := by
    have hpart : isIdentifierPart c = true := by
      simp only [isKeyChar, Bool.or_eq_true, decide_eq_true_eq] at hc
      rcases hc with hc | rfl
      · simp [isIdentifierPart, hc]
      · decide
    exact forall_isIdentifierPart (p := fun c => isKeyChar c = true →
      isFolderPart (asciiLower c) = true) (by decide) hpart hc
  have hfolder {c : Char} {rest : List Char} (hs : s.toList = c :: rest)
      (hc : isKeyStart c = true) (hrest : ∀ d ∈ rest, isKeyChar d = true) :
      OfForm isFolderStart isFolderPart (lower (capitalizeAscii s)) ↔ c.isAlpha = true := by
    have hname : isEntityName (capitalizeAscii s) = true :=
      (isEntityName_capitalizeAscii (isEntityName_iff.mpr ⟨c, rest, hs, hc, hrest⟩)).1
    rw [lower_eq_smallLetters hname, smallLetters, capitalizeAscii, hs, String.toList_ofList,
      List.map_cons, ofForm_ofList_cons, hstart hc, List.forall_mem_map]
    exact and_iff_left fun d hd => hother (hrest d hd)
  constructor
  · rintro ⟨⟨c, rest, hs, hc, hrest⟩, hsafe⟩
    exact ⟨c, rest, hs, (hfolder hs hc hrest).mp hsafe, hrest⟩
  · rintro ⟨c, rest, hs, halpha, hrest⟩
    have hc : isKeyStart c = true := by rw [isKeyStart, halpha, Bool.true_or]
    exact ⟨⟨c, rest, hs, hc, hrest⟩, (hfolder hs hc hrest).mpr halpha⟩

/-! ## Blocks in form -/

/-- Whether a naming block is in form. -/
structure NamingForm (keys : NamingKeys) (block : Json.Members) : Prop where
  plural : ∃ s, TextAt block keys.plural s ∧ OfForm Char.isAlpha isKeyChar s
  pluralLower : ∃ s, TextAt block keys.pluralLower s
  singular : ∃ s, TextAt block keys.singular s ∧ OfForm isKeyStart isKeyChar s
  singularLower : ∀ v, block.get? keys.singularLower = some v → v = .null ∨ ∃ s, v = .string s
  generateFolder : ∃ b, FolderFlagOf (block.get? keys.generateFolder) b

section

variable {keys : NamingKeys} {block : Json.Members}

/-- A block is in form when it passes all checks. -/
theorem namingForm_iff :
    NamingForm keys block ↔ ∀ c ∈ NamingCheck.inOrder keys, c.Holds block := by
  simp only [NamingCheck.inOrder, List.forall_mem_cons, List.not_mem_nil, false_imp_iff,
    implies_true, and_true]
  constructor
  · intro h
    obtain ⟨s, hs, hform⟩ := h.plural
    obtain ⟨hname, hfolder⟩ := ofForm_plural_iff.mpr hform
    exact ⟨⟨s, hs, hname⟩, h.pluralLower, h.singular, h.singularLower,
      fun t ht => ht.unique hs ▸ hfolder, h.generateFolder⟩
  · rintro ⟨⟨s, hs, hname⟩, hpluralLower, hsingular, hsingularLower, hfolder, hflag⟩
    exact ⟨⟨s, hs, ofForm_plural_iff.mp ⟨hname, hfolder s hs⟩⟩, hpluralLower, hsingular,
      hsingularLower, hflag⟩

/-- The names of an entity in small letters are their lower-case forms. -/
theorem folder_eq_lower {p q : String} {b : Bool} (h : isEntityName p = true) :
    (⟨capitalizeAscii p, q, b⟩ : Naming).folder = lower (capitalizeAscii p) :=
  (lower_eq_smallLetters (isEntityName_capitalizeAscii h).1).symm

theorem isFolderName_iff_of_suppliedName {p q : String} {b : Bool}
    (h : suppliedName block keys.plural = .ok p) :
    isFolderName (⟨capitalizeAscii p, q, b⟩ : Naming).folder = true ↔
      (NamingCheck.folder keys.plural).Holds block := by
  obtain ⟨htext, hname⟩ := suppliedName_eq_ok_iff.mp h
  rw [folder_eq_lower hname, isFolderName_iff]
  exact ⟨fun hform t ht => ht.unique (textAt_iff.mpr htext) ▸ hform,
    fun hholds => hholds p (textAt_iff.mpr htext)⟩

/-- **A block is refused for the first check that fails.** -/
theorem exists_reports_of_resolve {x : NamingFault} (h : Naming.resolve keys block = .error x) :
    ∃ before c, IsFirst (fun _ c => ¬c.Holds block) (NamingCheck.inOrder keys) before c ∧
      c.Reports block x := by
  -- Each check is made after the ones before it have been passed.
  have refuse (before : List NamingCheck) {c : NamingCheck} {after : List NamingCheck}
      (heq : NamingCheck.inOrder keys = before ++ c :: after)
      (hbefore : ∀ d ∈ before, d.Holds block) (hc : c.Reports block x) : ∃ before c,
        IsFirst (fun _ c => ¬c.Holds block) (NamingCheck.inOrder keys) before c ∧
          c.Reports block x :=
    ⟨before, c, heq ▸ isFirst_of_append hbefore hc.not_holds, hc⟩
  unfold Naming.resolve at h
  rcases error_cases_of_bind h with h | ⟨plural, hplural, h⟩
  · exact refuse [] rfl (by simp) (NamingCheck.reports_of_suppliedName h)
  have hplural' := NamingCheck.holds_of_suppliedName hplural
  rcases error_cases_of_bind h with h | ⟨pluralLower, hpluralLower, h⟩
  · exact refuse [_] rfl (by simp [hplural'])
      (NamingCheck.reports_of_requiredText (c := .text _) trivial trivial h)
  have hpluralLower' := NamingCheck.holds_of_requiredText hpluralLower
  rcases error_cases_of_bind h with h | ⟨singular, hsingular, h⟩
  · exact refuse [_, _] rfl (by simp [hplural', hpluralLower'])
      (NamingCheck.reports_of_suppliedName h)
  have hsingular' := NamingCheck.holds_of_suppliedName hsingular
  rcases error_cases_of_bind h with h | ⟨singularLower?, hsingularLower, h⟩
  · exact refuse [_, _, _] rfl (by simp [hplural', hpluralLower', hsingular'])
      (NamingCheck.reports_of_optionalText (c := .optionalText _) trivial h)
  have hsingularLower' := NamingCheck.holds_of_optionalText hsingularLower
  dsimp only at h
  split at h
  · next hfolder =>
    have hfolder' := (isFolderName_iff_of_suppliedName hplural).mp hfolder
    rcases error_cases_of_bind h with h | ⟨flag, -, h⟩
    · obtain ⟨hflag, v, hv, rfl⟩ := flagAt_eq_error h
      exact refuse [_, _, _, _, _] rfl
        (by simp [hplural', hpluralLower', hsingular', hsingularLower', hfolder'])
        (.notFlag hv (hv ▸ hflag))
    · cases h
  · next hfolder =>
    rcases error_cases_of_bind h with h | ⟨_, h, -⟩
    · obtain ⟨htext, hname⟩ := suppliedName_eq_ok_iff.mp hplural
      have hx := (Except.error.inj h).symm
      rw [folder_eq_lower hname] at hx hfolder
      rw [isFolderName_iff] at hfolder
      subst hx
      exact refuse [_, _, _, _] rfl
        (by simp [hplural', hpluralLower', hsingular', hsingularLower'])
        (.unsafeFolder (textAt_iff.mpr htext) hfolder)
    · simp [throw, throwThe, MonadExceptOf.throw] at h

/-- A block that is resolved passes all checks. -/
theorem holds_of_reads {s : Supplied} (h : s.Reads keys block)
    (hfolder : isFolderName s.naming.folder = true) :
    ∀ c ∈ NamingCheck.inOrder keys, c.Holds block := by
  simp only [NamingCheck.inOrder, List.forall_mem_cons, List.not_mem_nil, false_imp_iff,
    implies_true, and_true]
  exact ⟨NamingCheck.holds_of_suppliedName h.plural,
    NamingCheck.holds_of_requiredText h.pluralLower,
    NamingCheck.holds_of_suppliedName h.singular,
    NamingCheck.holds_of_optionalText h.singularLower,
    (isFolderName_iff_of_suppliedName h.plural).mp hfolder,
    _, folderFlagOf_iff.mpr h.generateFolder⟩

/-- **A block is resolved when it is in form.** -/
theorem exists_resolve_iff : (∃ r, Naming.resolve keys block = .ok r) ↔ NamingForm keys block := by
  rw [namingForm_iff]
  constructor
  · rintro ⟨⟨n, ws⟩, h⟩
    obtain ⟨s, hs, hfolder, -⟩ := resolve_eq_ok_iff.mp h
    exact holds_of_reads hs hfolder
  · intro h
    cases hr : Naming.resolve keys block with
    | ok r => exact ⟨r, rfl⟩
    | error x =>
      obtain ⟨before, c, hfirst, -⟩ := exists_reports_of_resolve hr
      exact absurd (h c (hfirst.isPrefix.subset (by simp))) hfirst.isBad

end

/-! ## What a block stands for -/

/-- The keys of the names, each with the name that should be there. -/
def Naming.written (keys : NamingKeys) (n : Naming) : List (String × String) :=
  [(keys.plural, n.plural), (keys.singular, n.singular), (keys.pluralLower, n.pluralLower),
    (keys.singularLower, n.singularLower)]

/-- Whether names and warnings are what a naming block stands for. -/
structure Naming.StandsFor (keys : NamingKeys) (block : Json.Members) (n : Naming)
    (ws : List Warning) : Prop where
  plural : ∃ s, TextAt block keys.plural s ∧ n.plural = capitalizeAscii s
  singular : ∃ s, TextAt block keys.singular s ∧ n.singular = capitalizeAscii s
  pluralLower : n.pluralLower = lower n.plural
  singularLower : n.singularLower = lower n.singular
  folder : n.folder = lower n.plural
  isSafe : OfForm isFolderStart isFolderPart n.folder
  generateFolder : FolderFlagOf (block.get? keys.generateFolder) n.generateFolder
  /-- There is one warning for each text that is not the name that should be there. -/
  warnings : ∀ w, w ∈ ws ↔ ∃ e ∈ n.written keys, ∃ s,
    TextAt block e.1 s ∧ s ≠ e.2 ∧ w = .corrected e.1 s e.2

section

variable {keys : NamingKeys} {block : Json.Members}

theorem mem_warnings_iff {s : Supplied} (h : s.Reads keys block) {w : Warning} :
    w ∈ s.warnings keys ↔ ∃ e ∈ s.naming.written keys, ∃ t,
      TextAt block e.1 t ∧ t ≠ e.2 ∧ w = .corrected e.1 t e.2 := by
  have hwarning (e : NameEntry) : e.warning? = some w ↔
      e.supplied ≠ e.resolved ∧ w = .corrected e.key e.supplied e.resolved := by
    rw [NameEntry.warning?, corrected?]
    split <;> simp_all [eq_comm]
  have htext {key t u : String} (ht : TextAt block key t) : TextAt block key u ↔ u = t :=
    ⟨fun hu => hu.unique ht, fun he => he ▸ ht⟩
  have hplural := textAt_iff.mpr (suppliedName_eq_ok_iff.mp h.plural).1
  have hsingular := textAt_iff.mpr (suppliedName_eq_ok_iff.mp h.singular).1
  have hpluralLower := textAt_iff.mpr (requiredText_eq_ok_iff.mp h.pluralLower)
  have hsingularLower {t : String} :
      TextAt block keys.singularLower t ↔ s.singularLower? = some t := by
    rw [textAt_iff, h.singularLower, Except.ok.injEq]
  simp only [Supplied.warnings, List.mem_filterMap, hwarning, Supplied.entries, Naming.written,
    List.mem_append, List.mem_cons, List.not_mem_nil, or_false, or_and_right,
    exists_or, exists_eq_left, htext hplural, htext hsingular, htext hpluralLower, hsingularLower]
  cases s.singularLower? <;> simp [or_assoc]

/-- A block that is resolved stands for the names and warnings that it is resolved to. -/
theorem standsFor_of_resolve {n : Naming} {ws : List Warning}
    (h : Naming.resolve keys block = .ok (n, ws)) : n.StandsFor keys block ws := by
  obtain ⟨s, hs, hfolder, rfl, rfl⟩ := resolve_eq_ok_iff.mp h
  obtain ⟨hplural, hpluralName⟩ := suppliedName_eq_ok_iff.mp hs.plural
  obtain ⟨hsingular, hsingularName⟩ := suppliedName_eq_ok_iff.mp hs.singular
  exact {
    plural := ⟨s.plural, textAt_iff.mpr hplural, rfl⟩
    singular := ⟨s.singular, textAt_iff.mpr hsingular, rfl⟩
    pluralLower := folder_eq_lower hpluralName
    singularLower := (lower_eq_smallLetters (isEntityName_capitalizeAscii hsingularName).1).symm
    folder := folder_eq_lower hpluralName
    isSafe := isFolderName_iff.mp hfolder
    generateFolder := folderFlagOf_iff.mpr hs.generateFolder
    warnings := fun _ => mem_warnings_iff hs }

end

/--
**A naming block is resolved when it is in form**, and to the names that it stands for. A block that
is not in form is refused for the first check that fails, in the order of the checks; the value is
reported missing when there must be one and there is none, and invalid otherwise.
-/
theorem resolve_grammar (keys : NamingKeys) (block : Json.Members) :
    ((∃ r, Naming.resolve keys block = .ok r) ↔ NamingForm keys block) ∧
      (∀ x, Naming.resolve keys block = .error x → ∃ before c,
        IsFirst (fun _ c => ¬c.Holds block) (NamingCheck.inOrder keys) before c ∧
          c.Reports block x ∧ (x = .missing c.key ↔ c.IsRequired ∧ Lacks block c.key)) ∧
      ∀ n ws, Naming.resolve keys block = .ok (n, ws) → n.StandsFor keys block ws := by
  refine ⟨exists_resolve_iff, fun x h => ?_, fun n ws => standsFor_of_resolve⟩
  obtain ⟨before, c, hfirst, hreports⟩ := exists_reports_of_resolve h
  exact ⟨before, c, hfirst, hreports, hreports.missing_iff⟩

/-- A naming block with a plural and a singular that starts with an underscore. -/
def postsBlock (plural : String) : Json.Members :=
  [("Users_1_000___", .string plural), ("users_2_000___", .string "entries"),
    ("User_3_000___", .string "_post"), ("use_generate_folder", .string "True")]

theorem resolve_grammar_postsBlock :
    (∃ n ws, Naming.resolve {} (postsBlock " posts\n") = .ok (n, ws) ∧
      n = ⟨"Posts", "_post", true⟩ ∧ n.StandsFor {} (postsBlock " posts\n") ws) ∧
    Naming.resolve {} (postsBlock "_posts") =
        .error (.invalid "Users_1_000___" "_posts" (.unsafeFolder "_posts")) ∧
      ∃ before, IsFirst (fun _ c => ¬c.Holds (postsBlock "_posts")) (NamingCheck.inOrder {}) before
        (.folder "Users_1_000___") := by
  refine ⟨⟨_, _, rfl, rfl, (resolve_grammar {} (postsBlock " posts\n")).2.2 _ _ rfl⟩, rfl, ?_⟩
  obtain ⟨before, c, hfirst, hreports, -⟩ :=
    (resolve_grammar {} (postsBlock "_posts")).2.1
      (.invalid "Users_1_000___" "_posts" (.unsafeFolder "_posts")) rfl
  -- Of the checks that fail, only the one of the folder says so.
  generalize hx : NamingFault.invalid _ _ _ = x at hreports
  cases hreports with
  | unsafeFolder =>
    obtain ⟨rfl, -⟩ := NamingFault.invalid.inj hx
    exact ⟨before, hfirst⟩
  | _ => simp at hx

end EntitySlice
