import EntitySlice.Proofs.ElementIds
import EntitySlice.Proofs.Slice.CheckLines
import EntitySlice.Proofs.Source.Sequences
import Mathlib.Data.List.Chain

/-!
# Lists of options

The options of a field are written as an array of literals in three places: as a constraint of the
database, in a check before a record is sent, and in the tag of the component that they are chosen
in. In the text of each place the array is read as the options of the field, and where no array
belongs there is none (`plan_options`).
-/

namespace EntitySlice.Slice

open EntitySlice.Source

/-! ## Fields with options -/

/-- The options that a value of the field has to be one of. -/
def choices? (f : Field) : Option (List String) :=
  if (f.widget = .select ∨ f.widget = .radio) ∧ f.options ≠ [] then some f.options else none

section

variable {f : Field} (hc : IsClassified f)

include hc

theorem options?_validator : f.classification.validator.options? = choices? f := by
  have hwidget : f.widget = f.spec.widget := by rw [Field.widget, hc]; rfl
  rw [choices?, hwidget, Field.options, hc, FieldSpec.classification]
  dsimp only
  cases f.spec.widget
  case select | radio =>
    rw [Validator.ofField]
    split <;> simp_all [Validator.options?]
  case multiSelect | multiCheckbox | stringArray =>
    rw [Validator.ofField]
    split <;> simp [Validator.options?]
  all_goals simp [Validator.ofField, Validator.options?]

end

theorem widget_of_choices? {f : Field} {options : List String} (h : choices? f = some options) :
    f.valueKind = .string ∧ isTrimmed f.widget = false := by
  have hkind : f.valueKind = f.widget.valueKind := rfl
  rw [choices?, Option.ite_none_right_eq_some] at h
  obtain ⟨⟨hw | hw, -⟩, -⟩ := h
  · rw [hkind, hw]
    exact ⟨rfl, rfl⟩
  · rw [hkind, hw]
    exact ⟨rfl, rfl⟩

/-! ## Constraints -/

/-- What follows the first place where a text stands. -/
def behind? (mark : List Char) : List Char → Option (List Char)
  | [] => mark.isPrefixOf? []
  | c :: cs => (mark.isPrefixOf? (c :: cs)).or (behind? mark cs)

/-- The name of the field that a line of the model is for, and the options that it lists. -/
def readConstraint? (line : String) : Option (String × Option (List String)) := do
  let l ← readKeyLine? ',' line
  match behind? "enum: ".toList l.content.toList with
  | none => some (l.name, none)
  | some list =>
    match ← readArray? readText? list with
    | (options, [' ', '\x7d']) => some (l.name, some options)
    | _ => none

/-- The definition of a field in the model. -/
def definition (f : Field) : String := object ((constraints f).map Constraint.member)

/-- Everything that the database knows about fields. -/
theorem constraint_cases {f : Field} {c : Constraint} (h : c ∈ constraints f) :
    (∃ k : ValueKind, c = .type k.storedType) ∨ c = .matching emailPattern ∨
      (∃ options, f.classification.validator.options? = some options ∧ c = .oneOf options) ∨
      c ∈ [.required, .trimmed, .default "[]", .default "false", .default "Date.now"] := by
  simp only [constraints, List.mem_append, List.mem_singleton] at h
  obtain (((rfl | hc) | hc) | hc) | hc := h
  · exact .inl ⟨_, rfl⟩
  · split at hc
    · obtain rfl := List.mem_singleton.mp hc
      simp
    · simp at hc
  · unfold validatorConstraints at hc
    split at hc
    · exact .inr (.inl (List.mem_singleton.mp hc))
    · next options hoptions =>
      rw [hoptions]
      exact .inr (.inr (.inl ⟨options, rfl, List.mem_singleton.mp hc⟩))
    · simp at hc
  · unfold defaultConstraints at hc
    split at hc
    · simp_all
    · simp_all
    · split at hc <;> simp_all
    · simp at hc
  · split at hc
    · obtain rfl := List.mem_singleton.mp hc
      simp
    · simp at hc

/-- Whether a letter can follow another one where no options are. -/
def NoOptions (a b : Char) : Prop := ¬(a = 'n' ∧ b = 'u')

instance (a b : Char) : Decidable (NoOptions a b) :=
  inferInstanceAs (Decidable (¬_))

theorem behind?_of_isChain {cs : List Char} (h : cs.IsChain NoOptions) :
    behind? "enum: ".toList cs = none := by
  induction cs with
  | nil => rfl
  | cons c cs ih =>
    rw [behind?, Option.or_eq_none_iff, Option.eq_none_iff_forall_ne_some]
    refine ⟨fun rest hrest => ?_, ih h.tail⟩
    rw [← List.append_eq_of_isPrefixOf?_eq_some hrest] at h
    simp [NoOptions] at h

/-- A comma and a blank keep what is before them apart from what is behind them. -/
theorem isChain_intercalate {texts : List String} (h : ∀ t ∈ texts, t.toList.IsChain NoOptions) :
    (", ".intercalate texts).toList.IsChain NoOptions := by
  induction texts with
  | nil => simp
  | cons t texts ih =>
    rw [List.forall_mem_cons] at h
    cases texts with
    | nil => simpa using h.1
    | cons u texts =>
      have hlist : (", ".intercalate (t :: u :: texts)).toList =
          t.toList ++ ([',', ' '] ++ (", ".intercalate (u :: texts)).toList) := by
        simp [String.intercalate_cons_cons]
      rw [hlist, List.isChain_append, List.isChain_append]
      refine ⟨h.1, ⟨by decide, ih h.2, ?_⟩, ?_⟩ <;> simp [NoOptions]

/-- No definition has the word before the options, unless it has options. -/
theorem behind?_definition_of_none {f : Field} (h : f.classification.validator.options? = none) :
    behind? "enum: ".toList (definition f).toList = none := by
  have hkinds : ∀ k : ValueKind,
      (Constraint.type k.storedType).member.source.toList.IsChain NoOptions := by
    intro k
    cases k <;> decide
  have hothers : ∀ c ∈ [Constraint.required, .trimmed, .default "[]", .default "false",
      .default "Date.now"], c.member.source.toList.IsChain NoOptions := by
    decide
  have hmembers : ∀ t ∈ ((constraints f).map Constraint.member).map Member.source,
      t.toList.IsChain NoOptions := by
    simp only [List.forall_mem_map]
    intro c hc
    obtain ⟨k, rfl⟩ | rfl | ⟨options, hoptions, -⟩ | hc := constraint_cases hc
    · exact hkinds k
    · decide
    · simp [h] at hoptions
    · exact hothers c hc
  have hlist : (definition f).toList = ['\x7b', ' '] ++ ((", ".intercalate
      (((constraints f).map Constraint.member).map Member.source)).toList ++ [' ', '\x7d']) := by
    simp [definition, object, inBraces]
  refine behind?_of_isChain ?_
  rw [hlist, List.isChain_append, List.isChain_append]
  refine ⟨by decide, ⟨isChain_intercalate hmembers, by decide, ?_⟩, ?_⟩ <;> simp [NoOptions]

section

variable {f : Field} (hc : IsClassified f)

include hc

theorem validator_of_choices? {options : List String} (h : choices? f = some options) :
    f.classification.validator = .oneOf options := by
  rw [← options?_validator hc] at h
  cases hv : f.classification.validator <;> simp_all [Validator.options?]

/-- Behind the word the options stand as an array, up to the end of the definition. -/
theorem behind?_definition_of_some {options : List String} (h : choices? f = some options) :
    behind? "enum: ".toList (definition f).toList =
      some ((literalList options).toList ++ [' ', '\x7d']) := by
  obtain ⟨hkind, htrimmed⟩ := widget_of_choices? h
  have hconstraints : constraints f =
      .type "String" :: ((if f.isRequired then [.required] else []) ++ [.oneOf options]) := by
    simp [constraints, hkind, htrimmed, validator_of_choices? hc h, validatorConstraints,
      defaultConstraints, ValueKind.storedType]
  cases hr : f.isRequired with
  | true =>
    have hlist : (definition f).toList = "\x7b type: String, required: true, enum: ".toList ++
        ((literalList options).toList ++ [' ', '\x7d']) := by
      simp [definition, hconstraints, hr, object, inBraces, Constraint.member, Member.source,
        String.intercalate_cons_cons, String.intercalate_singleton]
    rw [hlist]
    rfl
  | false =>
    have hlist : (definition f).toList = "\x7b type: String, enum: ".toList ++
        ((literalList options).toList ++ [' ', '\x7d']) := by
      simp [definition, hconstraints, hr, object, inBraces, Constraint.member, Member.source,
        String.intercalate_cons_cons, String.intercalate_singleton]
    rw [hlist]
    rfl

/-- **The options of a field are read back from its line in the model.** -/
theorem readConstraint?_modelLine :
    readConstraint? (Line.text ⟨4, .code (propertyKey f.name ++ ": " ++ definition f ++ ",")⟩) =
      some (f.name, choices? f) := by
  rw [readConstraint?, readKeyLine?_keyLine 4 f.name (definition f) rfl]
  cases h : choices? f with
  | none =>
    have hnone := behind?_definition_of_none ((options?_validator hc).trans h)
    simp only [Option.bind_eq_bind, Option.bind_some, hnone]
  | some options =>
    simp only [Option.bind_eq_bind, Option.bind_some, behind?_definition_of_some hc h,
      takes_literalList options _]

end

/-! ## Checks -/

/-- The options that a test looks among. -/
def Test.options? : Test → Option (List String)
  | notOneOf options => some options
  | _ => none

/-- The texts of the array that a condition goes on with behind a value. -/
def readOthers? (cs : List Char) : Option (List String × List Char) := do
  readArray? readText? (← " && !".toList.isPrefixOf? cs)

/-- The name of the field that a line asks to be one of some options, and the options. -/
def readChoice? (line : String) : Option (String × List String) := do
  let (shown, rest) ← readMemberFirst? (← "  if (".toList.isPrefixOf? line.toList)
  let (options, rest) ← readOthers? rest
  let (sought, rest) ← readMemberFirst? (← ".includes(".toList.isPrefixOf? rest)
  let _ ← ")) errors.push(".toList.isPrefixOf? rest
  if shown = sought then some (shown.2, options) else none

theorem toList_complaintLine (condition message : String) :
    (complaintLine condition message).toList = "  if (".toList ++
      (condition.toList ++ (") errors.push(" ++ literal message ++ ");").toList) := by
  simp [complaintLine]

/-- A condition that begins with a negation asks for no options. -/
theorem readChoice?_of_negation {condition : String} (h : condition.toList.head? = some '!')
    (message : String) : readChoice? (complaintLine condition message) = none := by
  obtain ⟨cs, hcs⟩ := List.head?_eq_some_iff.mp h
  rw [readChoice?, toList_complaintLine, isPrefixOf?_append, hcs]
  rfl

section

variable {x : String} (hx : ∀ c ∈ x.toList, isIdentifierPart c = true) (name : String)

include hx

/-- Neither does one that goes on with anything but an array behind the member. -/
theorem readChoice?_of_noArray {condition : String} (next : String)
    (hcondition : (member x name ++ next).toList <+: condition.toList) {c : Char}
    (hhead : next.toList.head? = some c) (hc : isIdentifierPart c = false)
    (h : ∀ rest, readOthers? (next.toList ++ rest) = none) (message : String) :
    readChoice? (complaintLine condition message) = none := by
  obtain ⟨more, hmore⟩ := hcondition
  obtain ⟨cs, hcs⟩ := List.head?_eq_some_iff.mp hhead
  have hmember := readMemberFirst?_member hx name hc
  rw [readChoice?, toList_complaintLine, isPrefixOf?_append, ← hmore, String.toList_append,
    List.append_assoc, List.append_assoc]
  rw [hcs] at h ⊢
  simp only [List.cons_append] at h ⊢
  simp only [Option.bind_eq_bind, Option.bind_some, hmember, h, Option.bind_none]

/-- It may go on with a blank. -/
theorem readChoice?_of_blank {condition : String} (next : String)
    (hnext : next.toList.head? = some ' ') (h : ∀ rest, readOthers? (next.toList ++ rest) = none)
    (hcondition : (member x name ++ next).toList <+: condition.toList) (message : String) :
    readChoice? (complaintLine condition message) = none :=
  readChoice?_of_noArray hx name next hcondition hnext rfl h message

theorem readChoice?_missingTest (k : ValueKind) (message : String) :
    readChoice? (complaintLine ((missingTest k).source (member x name)) message) = none := by
  unfold missingTest Test.source
  cases k
  case integer | float =>
    exact readChoice?_of_blank hx name " === undefined || " (by decide) (fun _ => rfl) (by simp) _
  case boolean =>
    exact readChoice?_of_blank hx name " === undefined" (by decide) (fun _ => rfl) (by simp) _
  all_goals
    exact readChoice?_of_negation (by simp) _

/-- A pattern is no array. -/
theorem readChoice?_mismatch {pattern : String} (h : pattern ∈ checkPatterns) (message : String) :
    readChoice? (complaintLine ((Check.mk true (.mismatch pattern) message).condition
      (member x name)) message) = none := by
  have hpatterns : ∀ pattern ∈ checkPatterns, pattern.toList.head? = some '/' := by decide
  obtain ⟨cs, hcs⟩ := List.head?_eq_some_iff.mp (hpatterns pattern h)
  have harray (rest : List Char) :
      readOthers? ((" && !" ++ pattern).toList ++ rest) = none := by
    rw [String.toList_append, hcs]
    rfl
  rw [Check.condition, if_pos rfl]
  unfold Test.source
  exact readChoice?_of_blank hx name (" && !" ++ pattern) (by simp) harray (by simp) _

/-- The options are read where they are asked for. -/
theorem readChoice?_of_options (options : List String) (message : String) :
    readChoice? (complaintLine ((Check.mk true (.notOneOf options) message).condition
      (member x name)) message) = some (name, options) := by
  have hcondition : (Check.mk true (.notOneOf options) message).condition (member x name) =
      member x name ++ " && " ++ ("!" ++ literalList options ++ ".includes(" ++ member x name
        ++ ")") := rfl
  have hlist (tail : List Char) :
      ((Check.mk true (.notOneOf options) message).condition (member x name)).toList ++
          (")".toList ++ tail) =
        (member x name).toList ++ ' ' :: ("&& !".toList ++ ((literalList options).toList ++
          (".includes(".toList ++ ((member x name).toList ++ ')' :: (")".toList ++ tail))))) := by
    rw [hcondition]
    simp
  have hothers (rest : List Char) :
      readOthers? (' ' :: ("&& !".toList ++ ((literalList options).toList ++ rest))) =
        some (options, rest) := takes_literalList options rest
  have hshown := readMemberFirst?_member hx name (c := ' ') rfl
  have hsought := readMemberFirst?_member hx name (c := ')') rfl
  have htail : (") errors.push(" ++ literal message ++ ");").toList =
      ")".toList ++ (" errors.push(".toList ++ (literal message ++ ");").toList) := by
    simp
  have hend : ")) errors.push(".toList.isPrefixOf?
      (')' :: (")".toList ++ (" errors.push(".toList ++ (literal message ++ ");").toList))) =
        some (literal message ++ ");").toList := isPrefixOf?_append ")) errors.push(".toList _
  rw [readChoice?, toList_complaintLine, isPrefixOf?_append, htail, hlist]
  simp only [Option.bind_eq_bind, Option.bind_some, hshown, hothers, isPrefixOf?_append, hsought,
    hend, if_true]

end

/-- A condition that begins with a call has no array behind the name of the function. -/
theorem readChoice?_notNumber (v message : String) :
    readChoice? (complaintLine (Test.notNumber.source v) message) = none := by
  have hmember : member "Number" "isNaN" = "Number.isNaN" := by decide
  have hparts : ∀ c ∈ "Number".toList, isIdentifierPart c = true :=
    List.all_eq_true.mp (by decide)
  have hbegins : (member "Number" "isNaN" ++ "(Number(").toList <+:
      ("Number.isNaN(Number(" ++ v ++ "))").toList := by
    rw [hmember]
    simp
  exact readChoice?_of_noArray hparts "isNaN" "(Number(" hbegins (c := '(') (by decide) rfl
    (fun _ => rfl) message

/-- **Options are read from the checks that ask for them, and from no others.** -/
theorem KnownCheck.readChoice?_eq {f : Field} {c : Check} (h : KnownCheck f c) {x : String}
    (hx : ∀ c ∈ x.toList, isIdentifierPart c = true) :
    readChoice? (complaintLine (c.condition (member x f.name)) c.message) =
      c.test.options?.map (f.name, ·) := by
  cases h with
  | missing k =>
    have hnone : (missingTest k).options? = none := by cases k <;> rfl
    exact (readChoice?_missingTest hx f.name k _).trans (congrArg (Option.map _) hnone).symm
  | choice => exact readChoice?_of_options hx f.name _ _
  | text hpattern => exact readChoice?_mismatch hx f.name hpattern _
  | number => exact readChoice?_notNumber _ _
  | integer =>
    rw [Check.condition, if_neg Bool.false_ne_true]
    unfold Test.source
    exact readChoice?_of_negation (by simp) _
  | date =>
    rw [Check.condition, if_pos rfl]
    unfold Test.source
    exact readChoice?_of_blank hx f.name " && N" (by decide) (fun _ => rfl) (by simp) _
  | dates | ends =>
    rw [Check.condition, if_pos rfl]
    unfold Test.source
    exact readChoice?_of_blank hx f.name " && (" (by decide) (fun _ => rfl) (by simp) _

/-- The options that the checks of a field look among are those of its validator. -/
theorem filterMap_options?_checks (f : Field) :
    (checks f).filterMap (fun c => c.test.options?) =
      f.classification.validator.options?.toList := by
  have hrequired : (if f.isRequired then [requiredCheck f] else []).filterMap
      (fun c => c.test.options?) = [] := by
    split
    · unfold requiredCheck
      cases f.valueKind <;> rfl
    · rfl
  rw [checks, List.filterMap_append, hrequired, List.nil_append, validatorCheck?]
  cases f.classification.validator with
  | date | time =>
    dsimp only [validityCheck]
    split <;> rfl
  | _ => rfl

theorem filterMap_readChoice?_checkTextLines {f : Field} (hc : IsClassified f) {x : String}
    (hx : ∀ c ∈ x.toList, isIdentifierPart c = true) :
    (checkTextLines x f).filterMap readChoice? = ((choices? f).map (f.name, ·)).toList := by
  have hread : (checks f).filterMap (fun c =>
      readChoice? (complaintLine (c.condition (member x f.name)) c.message)) =
        (checks f).filterMap fun c => c.test.options?.map (f.name, ·) :=
    List.filterMap_congr fun c hmem => (knownCheck_of_mem hmem).readChoice?_eq hx
  rw [checkTextLines_eq, List.filterMap_map]
  refine hread.trans ?_
  rw [← List.map_filterMap, filterMap_options?_checks, options?_validator hc]
  cases choices? f <;> rfl

/-- **The options of all fields are read back from the function that checks a record.** -/
theorem filterMap_readChoice?_checkTexts {e : Entity} (hc : ∀ f ∈ e.fields, IsClassified f) :
    ((checkTexts e).map fun t => Line.text ⟨2, .code t⟩).filterMap readChoice? =
      e.fields.filterMap fun f => (choices? f).map (f.name, ·) := by
  have hitem : ∀ c ∈ "item".toList, isIdentifierPart c = true := List.all_eq_true.mp (by decide)
  have hfirst : readChoice? "  const errors: string[] = [];" = none := rfl
  have hlast : readChoice? "  return errors;" = none := rfl
  rw [text_checkTexts, List.filterMap_cons, hfirst, List.filterMap_append, List.filterMap_cons,
    hlast, List.filterMap_flatMap, List.filterMap_nil]
  dsimp only
  rw [List.append_nil, List.filterMap_eq_flatMap_toList]
  exact List.flatMap_congr fun f hf => filterMap_readChoice?_checkTextLines (hc f hf) hitem

/-! ## Components -/

/-- The options that code in the place of a value lists. -/
def readOptions? : AttributeValue → Option (List String)
  | .code s =>
    match readArray? readText? s.toList with
    | some (options, []) => some options
    | _ => none
  | _ => none

/-- The lists of options in the tag of an element. -/
def optionLists (el : Element) : List (Option (List String)) :=
  (el.attributes.filter (·.name = "options")).map fun a => readOptions? a.value

theorem optionLists_mk (tag : String) (attributes : List Attribute) :
    optionLists ⟨tag, attributes⟩ =
      (attributes.filter (·.name = "options")).map fun a => readOptions? a.value := rfl

/-- **The options of a field are read back from the value for them.** -/
@[simp] theorem readOptions?_optionsArray (f : Field) :
    readOptions? (.code (optionsArray f)) = some f.options := by
  have harray : readArray? readText? (literalList f.options).toList = some (f.options, []) := by
    simpa using takes_literalList f.options []
  rw [readOptions?, optionsArray, harray]

/-- The lists of options that belong to the element for a field. -/
def listsFor (f : Field) : List (Option (List String)) :=
  if f.widget.usesOptions then [some f.options] else []

/-- The element for a field lists its options if they are chosen from. -/
@[simp] theorem optionLists_inputElement (f : Field) (value : String) (store : String → String)
    (id : AttributeValue) : optionLists (inputElement f value store id) = listsFor f := by
  unfold inputElement optionsAttribute listsFor
  split
  · split <;> simp [optionLists, attrCode, onChange]
  · next hpicker =>
    have hno : f.widget.usesOptions = false := by
      cases hw : f.widget <;> simp_all [Widget.picker?, Widget.usesOptions]
    dsimp only
    split <;> simp [optionLists, hno, attrCode, attr, classes, onInput, onChange]

@[simp] theorem optionLists_labelElement (id : String) : optionLists (labelElement id) = [] := by
  simp [optionLists, labelElement, attr, classes]

theorem flatMap_listsFor (fs : List Field) : fs.flatMap listsFor =
    (fs.filter (·.widget.usesOptions)).map fun f => some f.options := by
  induction fs with
  | nil => rfl
  | cons f fs ih =>
    rw [List.flatMap_cons, ih, List.filter_cons, listsFor]
    split <;> rfl

section Dialogs

attribute [local simp] List.filterMap_cons List.flatMap_map List.flatMap_assoc Declaration.lines
  Definition.lines elementsOf_flatMap elementsOf_map dialog division button busyButton closeButton
  buttonRow paragraph paragraphElement onlyIf forEach closeFunction asyncFunction tryBlock
  errorMessage errorList fieldInput attr attrCode classes onClick onChange optionLists_mk

/-- **The dialogs in which fields are edited list the options of each field that are chosen from**,
and no others. -/
theorem optionLists_of_mem_editorParts {e : Entity} {q : Part} (hq : q ∈ editorParts) {path : Path}
    {m : File} (hm : q.single? e = some (path, .source m)) :
    m.elements.flatMap optionLists = e.fields.flatMap listsFor := by
  rw [File.elements_eq, File.declarations, File.items]
  cases q with
  | add =>
    obtain rfl := source_eq rfl hm
    simp [addDialog, addInputs, submitFunction, submitButtons]
  | edit =>
    obtain rfl := source_eq rfl hm
    simp [editDialog, editInputs, submitFunction, submitButtons]
  | bulkEdit =>
    obtain rfl := source_eq rfl hm
    simp [bulkEditDialog, bulkEditTable, bulkEditCell, bulkSubmitFunction, bulkButtons]
  | bulkUpdate =>
    obtain rfl := source_eq rfl hm
    simp [bulkUpdateDialog, draftImports, guardedSubmit, chosenInput, fieldChoice,
      bulkSubmitFunction, bulkButtons, selectionNote]
  | bulkDynamicUpdate =>
    obtain rfl := source_eq rfl hm
    simp [bulkDynamicUpdateDialog, draftImports, tickedInput, tickedValues, guardedSubmit,
      bulkSubmitFunction, bulkButtons, selectionNote]
  | _ => simp [editorParts] at hq

end Dialogs

/-! ## Inputs in the dialogs -/

/-- Whether an element is for a field: it has an id and is not the choice of a field. -/
def isFieldInput (el : Element) : Bool := (el.get? "id").isSome && el.tag ≠ "select"

theorem isNamed_of_isFieldInput {el : Element} (h : isFieldInput el = true) :
    el.isNamed = true := by
  refine eq_true_of_ne_false fun hno => ?_
  simp [isFieldInput, (Element.get?_of_not_isNamed hno).1] at h

theorem isFieldInput_labelElement (id : String) : isFieldInput (labelElement id) = false := rfl

theorem isFieldInput_inputElement (f : Field) (value : String) (store : String → String)
    (id : AttributeValue) : isFieldInput (inputElement f value store id) = true := by
  have hpickers (p : Picker) : p.component ≠ "select" := by cases p <;> decide
  have htag : (inputElement f value store id).tag ≠ "select" := by
    unfold inputElement
    split
    · exact hpickers _
    · dsimp only
      split <;> simp
  simp [isFieldInput, htag]

/-- Labels are passed over. -/
theorem filter_behindLabels (ps : List (String × Element)) :
    (behindLabels labelElement ps).filter isFieldInput =
      (ps.map Prod.snd).filter isFieldInput := by
  induction ps with
  | nil => rfl
  | cons p ps ih =>
    have hcons : behindLabels labelElement (p :: ps) =
        labelElement p.1 :: p.2 :: behindLabels labelElement ps := rfl
    rw [hcons, List.filter_cons_of_neg (by simp [isFieldInput_labelElement]), List.map_cons,
      List.filter_cons, List.filter_cons, ih]

/-- Elements for fields list the options of their fields. -/
theorem map_optionLists_inputs {input : Field → Element}
    (h : ∀ f, ∃ value store id, input f = inputElement f value store id) (fs : List Field) :
    ((fs.map input).filter isFieldInput).map optionLists = fs.map listsFor := by
  have hself : (fs.map input).filter isFieldInput = fs.map input := by
    rw [List.filter_eq_self, List.forall_mem_map]
    intro f _
    obtain ⟨value, store, id, heq⟩ := h f
    rw [heq]
    exact isFieldInput_inputElement f value store id
  rw [hself, List.map_map]
  refine List.map_congr_left fun f _ => ?_
  obtain ⟨value, store, id, heq⟩ := h f
  rw [Function.comp_apply, heq, optionLists_inputElement]

/-- **Each dialog in which fields are edited has one element for each field**, which lists its
options if they are chosen from. -/
theorem map_optionLists_dialogElements {e : Entity} {q : Part} (hq : q ∈ editorParts) :
    ((dialogElements e q).filter isFieldInput).map optionLists = e.fields.map listsFor := by
  cases q with
  | add | edit =>
    rw [dialogElements, filter_behindLabels, List.map_map]
    exact map_optionLists_inputs (fun f => ⟨_, _, _, rfl⟩) _
  | bulkEdit => exact map_optionLists_inputs (fun f => ⟨_, _, _, rfl⟩) _
  | bulkUpdate =>
    -- The choice of the field comes first.
    rw [dialogElements, filter_behindLabels, bulkUpdateInputs, List.map_cons,
      List.filter_cons_of_neg (by simp [isFieldInput]), List.map_map]
    exact map_optionLists_inputs (fun f => ⟨_, _, _, rfl⟩) _
  | bulkDynamicUpdate => exact map_optionLists_inputs (fun f => ⟨_, _, _, rfl⟩) _
  | _ => simp [editorParts] at hq

/-- The tags for fields in the text of such a dialog are these. -/
theorem filter_isFieldInput_tags {e : Entity} (h : HasPlainNames e) {f : SliceFile}
    (hf : f ∈ files e) (hpart : f.part ∈ formParts) :
    f.tags.filter isFieldInput = (dialogElements e f.part).filter isFieldInput := by
  rw [← filter_isNamed_tags h hf hpart, List.filter_filter]
  refine List.filter_congr fun el _ => ?_
  cases hel : isFieldInput el with
  | false => rfl
  | true => rw [isNamed_of_isFieldInput hel]; rfl

end EntitySlice.Slice

namespace EntitySlice

open EntitySlice.Slice EntitySlice.Source

/-! ## Plans -/

/-- Whether the modules of a plan list the options of each field as they are, where they are to. -/
structure Plan.ListsOptions (p : Plan) : Prop where
  /-- The model has one line for each field, with the options that a value has to be one of. -/
  model : ∃ lines, p.block? .model "  \x7b" r"  }," = some lines ∧
    lines.map readConstraint? = p.entity.fields.map fun f => some (f.name, choices? f)
  /-- The function that checks a record asks for these options and for no others. -/
  checks : ∃ lines, p.block? .entityData (checkStart p.entity) r"};" = some lines ∧
    lines.filterMap readChoice? = p.entity.fields.filterMap fun f => (choices? f).map (f.name, ·)
  /-- In the text of each dialog in which fields are edited, the tag for a field lists its options
  if they are chosen from. -/
  inputs : ∀ q ∈ editorParts, ∃ file ∈ files p.entity, file.part = q ∧
    (file.tags.filter isFieldInput).map optionLists = p.entity.fields.map fun f =>
      if f.widget.usesOptions then [some f.options] else []
  /-- No other tag in the text lists any. -/
  dialogs : ∀ file ∈ files p.entity, file.part ∈ editorParts →
    file.tags.flatMap optionLists =
      (p.entity.fields.filter (·.widget.usesOptions)).map fun f => some f.options

/--
**The options of a field are the same wherever they are listed**, whatever texts they are. The
fields of a plan are those of the schema, in its order.
-/
theorem plan_options {keys : NamingKeys} {text : String} {p : Plan} (h : plan keys text = .ok p) :
    ∃ s, Schema.parse text = .ok s ∧ p.entity.fields = Field.ofSpecs s.fields ∧
      p.artifacts = (files p.entity).map SliceFile.artifact ∧ p.ListsOptions := by
  obtain ⟨s, hs, hfields, hnames⟩ := fields_of_plan h
  have hclassified := isClassified_of_plan h
  have hplain := hasPlainNames_of_plan h
  refine ⟨s, hs, hfields, (plan_eq_ok_iff.mp h).2, ?_⟩
  constructor
  case model =>
    refine ⟨_, block?_of_plan h (q := .model) rfl (linesBetween_model hnames), ?_⟩
    rw [modelTexts, List.map_map, List.map_map]
    exact List.map_congr_left fun f hf => readConstraint?_modelLine (hclassified f hf)
  case checks =>
    exact ⟨_, block?_of_plan h (q := .entityData) rfl (linesBetween_checks hnames hclassified),
      filterMap_readChoice?_checkTexts hclassified⟩
  case inputs =>
    intro q hq
    have hform : q ∈ formParts := List.mem_append_left _ hq
    obtain ⟨file, hfile, rfl⟩ := exists_file_of_mem_formParts p.entity hform
    refine ⟨file, hfile, rfl, ?_⟩
    rw [filter_isFieldInput_tags hplain hfile hform, map_optionLists_dialogElements hq]
    rfl
  case dialogs =>
    intro file hfile hpart
    obtain ⟨m, -, hsingle, htags⟩ := exists_module_of_mem_formParts hplain hfile
      (List.mem_append_left _ hpart)
    rw [htags, optionLists_of_mem_editorParts hpart hsingle, flatMap_listsFor]

/-- A schema with options that look like parts of a list. -/
def listLikeSchema : String :=
  "\x7b\"namingConvention\":\x7b\"Users_1_000___\":\"Posts\",\"users_2_000___\":\"posts\","
    ++ "\"User_3_000___\":\"Post\"\x7d,\"fields\":[\x7b\"name\":\"it's\",\"type\":\"SELECT\","
    ++ "\"options\":[\"a', 'b\",\"] \x7d\",\"\\\\\\n\"]\x7d,"
    ++ "\x7b\"name\":\"kind\",\"type\":\"RADIO\"\x7d,"
    ++ "\x7b\"name\":\"tags\",\"type\":\"MULTISELECT\",\"options\":[\"x\"]\x7d]\x7d"

theorem plan_options_listLikeSchema :
    ∃ p, plan {} listLikeSchema = .ok p ∧ p.ListsOptions ∧
      p.entity.fields.map (fun f => (f.name, choices? f, f.options)) =
        [("it's", some ["a', 'b", "] \x7d", "\\\n"], ["a', 'b", "] \x7d", "\\\n"]),
          ("kind", none, []), ("tags", none, ["x"])] := by
  obtain ⟨p, hp, hfields⟩ : ∃ p, plan {} listLikeSchema = .ok p ∧
      p.entity.fields.map (fun f => (f.name, choices? f, f.options)) =
        [("it's", some ["a', 'b", "] \x7d", "\\\n"], ["a', 'b", "] \x7d", "\\\n"]),
          ("kind", none, []), ("tags", none, ["x"])] := by
    apply exists_plan_of_chars (fun e => e.fields.map fun f => (f.name, choices? f, f.options))
    · unfold listLikeSchema
      iterate 4 apply toList_append_eq String.toList_ofList
      exact String.toList_ofList
    · decide +kernel
  obtain ⟨-, -, -, -, hlists⟩ := plan_options hp
  exact ⟨p, hp, hlists, hfields⟩

end EntitySlice
