import EntitySlice.Proofs.Slice.CheckLines
import EntitySlice.Proofs.Source.RecordUpdates

/-!
# Records without a value

What the checks of a field say where a record has no value for it (`checks_absent`). A guarded check
says nothing there and every other one complains (`complaints?_undefined`), so a required value is
missed. The checks of a field that may be left out are guarded, except where its values are numbers:
the check of a number complains about a record without the number.
-/

namespace EntitySlice.Slice

open EntitySlice.Source

/-! ## Guarded checks -/

/-- Whether the condition of a line asks first for a value that is there. -/
def IsGuarded (value line : String) : Prop :=
  ∃ condition message, line = complaintLine (value ++ " && " ++ condition) message

theorem isGuarded_of_guarded {c : Check} (h : c.guarded = true) (value : String) :
    IsGuarded value (complaintLine (c.condition value) c.message) :=
  ⟨c.test.source value, c.message, by rw [Check.condition, if_pos h]⟩

/-! ## What is said about no value -/

theorem eval?_missingTest_undefined (k : ValueKind) :
    (missingTest k).expression.eval? .undefined = some (.boolean true) := by
  cases k <;> rfl

/-- A check that is not guarded asks whether a value is missing, or for a number. -/
theorem KnownCheck.complaints?_undefined {f : Field} {c : Check} (h : KnownCheck f c) :
    c.complaints? .undefined = some (if c.guarded then [] else [c.message]) := by
  cases h with
  | missing k => simp [Check.complaints?, Check.expression, eval?_missingTest_undefined]
  | integer | number => rfl
  | _ => exact Check.complaints?_of_falsy rfl

/-- **About no value all checks complain that are not guarded**, and no others. -/
theorem complaints?_undefined (f : Field) : complaints? .undefined f =
    some ((checks f).flatMap fun c => if c.guarded then [] else [c.message]) :=
  complaints?_of_checks fun _ hc => (knownCheck_of_mem hc).complaints?_undefined

/-! ## Fields with numbers -/

/-- What is said where the values of a field have to be numbers and one is not. -/
def numberMessages (f : Field) : List String :=
  match f.valueKind with
  | .integer => [f.title ++ " must be a whole number"]
  | .float => [f.title ++ " must be a number"]
  | _ => []

section

variable {f : Field} (hc : IsClassified f)

include hc

theorem validator_eq_iff :
    (f.classification.validator = .integer ↔ f.valueKind = .integer) ∧
      (f.classification.validator = .number ↔ f.valueKind = .float) := by
  rw [Field.valueKind, hc, Classification.valueKind, FieldSpec.classification]
  dsimp only
  cases f.spec.widget
  case select | radio | multiSelect | multiCheckbox | stringArray =>
    rw [Validator.ofField]
    split <;> simp [Widget.valueKind]
  all_goals simp [Validator.ofField, Widget.valueKind]

/-- Only the check for a number is not guarded. -/
theorem validatorCheck?_cases :
    (f.valueKind = .integer ∧ validatorCheck? f =
      some ⟨false, .notInteger, f.title ++ " must be a whole number"⟩) ∨
    (f.valueKind = .float ∧ validatorCheck? f =
      some ⟨false, .notNumber, f.title ++ " must be a number"⟩) ∨
    (f.valueKind.isNumeric = false ∧ ∀ c ∈ validatorCheck? f, c.guarded = true) := by
  obtain ⟨hinteger, hnumber⟩ := validator_eq_iff hc
  by_cases hi : f.valueKind = .integer
  · refine .inl ⟨hi, ?_⟩
    rw [validatorCheck?, hinteger.mpr hi]
  by_cases hf : f.valueKind = .float
  · refine .inr (.inl ⟨hf, ?_⟩)
    rw [validatorCheck?, hnumber.mpr hf]
  refine .inr (.inr ⟨?_, fun c hcheck => ?_⟩)
  · cases hk : f.valueKind <;> simp_all [ValueKind.isNumeric]
  · unfold validatorCheck? at hcheck
    split at hcheck
    case h_6 h => exact absurd (hinteger.mp h) hi
    case h_7 h => exact absurd (hnumber.mp h) hf
    all_goals
      cases hcheck
    all_goals
      rfl

end

/-! ## Records without the field -/

/-- What the checks of the field of an object say when the object is a record. -/
def fieldComplaints? (s : RecordScope) (inherited : Value → String → Value) (object : String)
    (f : Field) : Option (List String) :=
  (s.member? inherited (member object f.name)).bind (complaints? · f)

/-- What the checks of a field ask for, and what they say where a record has no value for it. -/
structure AnswersAbsence (object : String) (f : Field) : Prop where
  /-- Each line is a check with the condition under which it complains. -/
  lines : checkTextLines object f = (checks f).map fun c =>
    complaintLine (c.expression.source (member object f.name)) c.message
  guarded : f.isRequired = false → f.valueKind.isNumeric = false →
    ∀ line ∈ checkTextLines object f, IsGuarded (member object f.name) line
  integer : f.isRequired = false → f.valueKind = .integer → checkTextLines object f =
    [complaintLine ("!Number.isInteger(Number(" ++ member object f.name ++ "))")
      (f.title ++ " must be a whole number")]
  float : f.isRequired = false → f.valueKind = .float → checkTextLines object f =
    [complaintLine ("Number.isNaN(Number(" ++ member object f.name ++ "))")
      (f.title ++ " must be a number")]
  complaints (s : RecordScope) (inherited : Value → String → Value) (r : Record)
    (hr : s.records object = some r) (habsent : r.read inherited f.name = .undefined) :
    fieldComplaints? s inherited object f = some
      ((if f.isRequired then [f.title ++ " is required"] else []) ++ numberMessages f)

section

variable {f : Field} (hc : IsClassified f)

include hc

/-- A record without a value is told what is required, and what a number must be. -/
theorem flatMap_unguarded :
    (checks f).flatMap (fun c => if c.guarded then [] else [c.message]) =
      (if f.isRequired then [f.title ++ " is required"] else []) ++ numberMessages f := by
  have hrequired : (if f.isRequired then [requiredCheck f] else []).flatMap
      (fun c => if c.guarded then [] else [c.message]) =
        if f.isRequired then [f.title ++ " is required"] else [] := by
    split <;> rfl
  rw [checks, List.flatMap_append, hrequired]
  congr 1
  obtain ⟨hk, hcheck⟩ | ⟨hk, hcheck⟩ | ⟨hk, hguarded⟩ := validatorCheck?_cases hc
  · rw [hcheck, numberMessages, hk]
    rfl
  · rw [hcheck, numberMessages, hk]
    rfl
  · have hnone : numberMessages f = [] := by
      unfold numberMessages
      split <;> simp_all [ValueKind.isNumeric]
    rw [hnone, List.flatMap_eq_nil_iff]
    exact fun c hmem => if_pos (hguarded c (Option.mem_toList.mp hmem))

/-- So much is said about a record without the value. -/
theorem fieldComplaints?_of_absent {object : String} (hobject : isIdentifier object = true)
    {s : RecordScope} {inherited : Value → String → Value} {r : Record}
    (hr : s.records object = some r) (habsent : r.read inherited f.name = .undefined) :
    fieldComplaints? s inherited object f = some
      ((if f.isRequired then [f.title ++ " is required"] else []) ++ numberMessages f) := by
  have hparts : ∀ c ∈ object.toList, isIdentifierPart c = true := fun c hc =>
    isIdentifierPart_of_mem hobject hc
  rw [fieldComplaints?, s.member?_member hparts hr, habsent, Option.bind_some,
    complaints?_undefined, flatMap_unguarded hc]

end

/--
**What the checks of a field do without a value.** A required value is missed in every record
without it. A field that may be left out has guarded checks alone and nothing is said where it is
left out, unless its values are numbers: then its one check is not guarded, and complains.
-/
theorem checks_absent {f : Field} (hc : IsClassified f) {object : String}
    (hobject : isIdentifier object = true) : AnswersAbsence object f := by
  have hoptional (hr : f.isRequired = false) : checks f = (validatorCheck? f).toList := by
    rw [checks, hr]
    rfl
  constructor
  case lines => simp only [checkTextLines_eq, Check.condition_eq]
  case guarded =>
    intro hr hk line hline
    rw [checkTextLines_eq, hoptional hr] at hline
    obtain ⟨c, hmem, rfl⟩ := List.mem_map.mp hline
    obtain ⟨hk', -⟩ | ⟨hk', -⟩ | ⟨-, hguarded⟩ := validatorCheck?_cases hc
    · simp [hk', ValueKind.isNumeric] at hk
    · simp [hk', ValueKind.isNumeric] at hk
    · exact isGuarded_of_guarded (hguarded c (Option.mem_toList.mp hmem)) _
  case integer =>
    intro hr hk
    rw [checkTextLines_eq, hoptional hr, validatorCheck?, (validator_eq_iff hc).1.mpr hk]
    rfl
  case float =>
    intro hr hk
    rw [checkTextLines_eq, hoptional hr, validatorCheck?, (validator_eq_iff hc).2.mpr hk]
    rfl
  case complaints =>
    intro s inherited r hr habsent
    exact fieldComplaints?_of_absent hc hobject hr habsent

/-- A field as a description alone makes it. -/
def classifiedField (spec : FieldSpec) : Field := ⟨spec, spec.classification, "Key"⟩

/-- A whole number that may be left out. -/
def ageField : Field := classifiedField ⟨"age", "INTNUMBER", none, none⟩

/-- A mail address that may be left out. -/
def mailField : Field := classifiedField ⟨"e-mail", "EMAIL", none, some false⟩

/-- A form with an empty record, of which no member is inherited. -/
def emptyItem : RecordScope where
  records _ := some .empty
  values _ := none

theorem said_ageField :
    (if ageField.isRequired then [ageField.title ++ " is required"] else [])
      ++ numberMessages ageField = ["Age must be a whole number"] := by
  decide +kernel

theorem checks_absent_ageField :
    fieldComplaints? emptyItem (fun _ _ => .undefined) "item" ageField =
      some ["Age must be a whole number"] ∧
    fieldComplaints? emptyItem (fun _ _ => .undefined) "item" mailField = some [] := by
  have hitem : isIdentifier "item" = true := by decide
  have hage := (checks_absent (f := ageField) rfl hitem).complaints
    emptyItem (fun _ _ => .undefined) .empty rfl rfl
  have hmail := (checks_absent (f := mailField) rfl hitem).complaints
    emptyItem (fun _ _ => .undefined) .empty rfl rfl
  have hnothing : (if mailField.isRequired then [mailField.title ++ " is required"] else [])
      ++ numberMessages mailField = [] := by
    decide +kernel
  exact ⟨hage.trans (congrArg some said_ageField), hmail.trans (congrArg some hnothing)⟩

/-- **Not every field that may be left out is passed over where it is left out.** -/
theorem exists_complaint_about_absent :
    ¬∀ f : Field, IsClassified f → ∀ object, isIdentifier object = true →
      (f.isRequired = false →
        (∀ line ∈ checkTextLines object f, IsGuarded (member object f.name) line) ∧
        ∀ (s : RecordScope) (inherited : Value → String → Value) (r : Record),
          s.records object = some r → r.read inherited f.name = .undefined →
          fieldComplaints? s inherited object f = some []) ∧
      (f.isRequired = true →
        ∀ (s : RecordScope) (inherited : Value → String → Value) (r : Record),
          s.records object = some r → r.read inherited f.name = .undefined →
          ∃ message more, fieldComplaints? s inherited object f = some (message :: more)) := by
  intro hall
  have hnothing := ((hall ageField rfl "item" (by decide)).1 rfl).2 emptyItem
    (fun _ _ => .undefined) .empty rfl rfl
  rw [fieldComplaints?_of_absent (f := ageField) rfl (by decide) rfl rfl, said_ageField] at hnothing
  simp at hnothing

end EntitySlice.Slice
