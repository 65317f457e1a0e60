import EntitySlice.Proofs.Source.Expressions
import EntitySlice.Slice.Client.EntityData
import EntitySlice.Slice.Server.Model

/-!
# New records, checks and constraints

What the code for a field does with the value that a new record has for it: the checks before a
record is sent, and the constraints of the database. The conditions of the checks are expressions as
they are written (`Check.condition_eq`).

* `complaints?_newValue` — no check of a field that may be left out complains about its new value
* `OptionalConstraint.admits_newValue_iff` — the database takes it too, unless it is to be one of
  some options and the empty text is none of them
-/

namespace EntitySlice.Slice

open EntitySlice.Number EntitySlice.Source

/-! ## Fields that may be left out -/

/-- Whether all that is known about a field follows from its description. -/
def IsClassified (f : Field) : Prop := f.classification = f.spec.classification

/-- The validators of fields that may be left out, each with the kind of the values. -/
inductive OptionalValidator : ValueKind → Validator → Prop
  | none (k : ValueKind) : OptionalValidator k .none
  | email : OptionalValidator .string .email
  | url : OptionalValidator .string .url
  | phone : OptionalValidator .string .phone
  | oneOf (options : List String) : OptionalValidator .string (.oneOf options)
  | integer : OptionalValidator .integer .integer
  | number : OptionalValidator .float .number
  | date : OptionalValidator .date .date
  | dateRange : OptionalValidator .dateRange .date
  | time : OptionalValidator .time .time
  | timeRange : OptionalValidator .timeRange .time

/--
The validator of a field that may be left out fits the kind of its values. This is the only place
where the widgets are told apart.
-/
theorem optionalValidator {f : Field} (hc : IsClassified f) (hr : f.isRequired = false) :
    OptionalValidator f.valueKind f.classification.validator := by
  have hrequired : ¬f.spec.isRequired = true := by
    rw [Field.isRequired, hc] at hr
    exact Bool.eq_false_iff.mp hr
  rw [Field.valueKind, hc, Classification.valueKind, FieldSpec.classification]
  dsimp only
  cases hw : f.spec.widget
  case email => exact .email
  case url => exact .url
  case phone => exact .phone
  case integer => exact .integer
  case float => exact .number
  case date => exact .date
  case dateRange => exact .dateRange
  case time => exact .time
  case timeRange => exact .timeRange
  case select | radio =>
    rw [Validator.ofField]
    split
    · exact .none _
    · exact .oneOf _
  case multiSelect | multiCheckbox | stringArray =>
    rw [Validator.ofField, if_neg hrequired]
    exact .none _
  all_goals exact .none _

/-! ## Conditions -/

/-- The condition under which a test finds something wrong. -/
def Test.expression : Test → Expression
  | missing => .not .it
  | missingNumber => .or (.or (.same .it .undefined) (.same .it .null)) (.isNaN (.number .it))
  | undefined => .same .it .undefined
  | missingItems => .or (.not .it) (.same (.member .it .length) .zero)
  | missingEnds => .or (.or (.not .it) (.not (.member .it .start))) (.not (.member .it .stop))
  | mismatch pattern => .not (.tests pattern (.text .it))
  | notInteger => .not (.isInteger (.number .it))
  | notNumber => .isNaN (.number .it)
  | notDate => .isNaN (.time .it)
  | notDates =>
    .group (.or (.isNaN (.time (.member .it .start))) (.isNaN (.time (.member .it .stop))))
  | endMismatch pattern =>
    .group (.or (.not (.tests pattern (.member .it .start)))
      (.not (.tests pattern (.member .it .stop))))
  | notOneOf options => .not (.includes options .it)

/-- The condition under which a check complains. -/
def Check.expression (c : Check) : Expression :=
  if c.guarded then .and .it c.test.expression else c.test.expression

theorem Test.source_eq (v : String) (t : Test) : t.source v = t.expression.source v := by
  refine String.toList_inj.mp ?_
  unfold Test.source
  cases t
  all_goals
    dsimp only
    simp [expression, Expression.source, Expression.pieces, MemberName.source]

/-- **Checks are written with these conditions.** -/
theorem Check.condition_eq (v : String) (c : Check) :
    c.condition v = c.expression.source v := by
  unfold condition expression
  rw [Test.source_eq]
  split
  · refine String.toList_inj.mp ?_
    simp [Expression.source, Expression.pieces]
  · rfl

/-- What a check says about a value. -/
def Check.complaints? (x : Value) (c : Check) : Option (List String) :=
  (c.expression.eval? x).map fun v => if v.isTruthy then [c.message] else []

/-- What the checks of a field say about a value, one after the other. -/
def complaints? (x : Value) (f : Field) : Option (List String) :=
  ((checks f).mapM (Check.complaints? x)).map List.flatten

/-! ## Values of new records -/

/-- The time of day without seconds. -/
def currentTime (m : Moment) : String := String.ofList (m.timeOfDay.toList.take 5)

/-- The value that a new record has for a kind, when the clock shows these moments in turn. -/
def newValue (now : Moment × Moment) : ValueKind → Value
  | .string => .text ""
  | .integer | .float => .zero
  | .boolean => .boolean false
  | .date => .date now.1
  | .time => .text (currentTime now.1)
  | .dateRange => .span (.date now.1) (.date now.2)
  | .timeRange => .span (.text (currentTime now.1)) (.text (currentTime now.2))
  | .stringList => .list []

/-- The kinds of values. -/
def valueKinds : List ValueKind :=
  [.string, .integer, .float, .boolean, .date, .time, .dateRange, .timeRange, .stringList]

/-- What the expression for a default comes to in the member with a name. -/
def defaultValue? (clock : String → Moment × Moment) (name expression : String) : Option Value :=
  (valueKinds.find? fun k => (DefaultValue.ofKind k).expression = expression).map
    (newValue (clock name))

theorem defaultValue?_expression (clock : String → Moment × Moment) (name : String)
    (k : ValueKind) : defaultValue? clock name (DefaultValue.ofKind k).expression =
      some (newValue (clock name) k) := by
  -- Both kinds of numbers have the same default.
  have hfind : (valueKinds.find? fun j =>
      (DefaultValue.ofKind j).expression = (DefaultValue.ofKind k).expression) =
        some (if k = .float then .integer else k) := by
    cases k <;>
      simp [valueKinds, DefaultValue.ofKind, DefaultValue.expression, floatLiteral_zero] <;> decide
  rw [defaultValue?, hfind]
  cases k <;> rfl

theorem matchesText_currentTime (m : Moment) :
    TextPattern.time.matchesText (currentTime m) = true := by
  have hhour : ∀ h : Fin 24, Atom.digit.allows (h / 10 : Nat).digitChar = true ∧
      Atom.digit.allows (h % 10 : Nat).digitChar = true := by
    decide
  have hminute : ∀ n : Fin 60, Atom.digit.allows (n / 10 : Nat).digitChar = true ∧
      Atom.digit.allows (n % 10 : Nat).digitChar = true := by
    decide
  rw [TextPattern.matchesText, currentTime, String.toList_ofList, Moment.timeOfDay,
    String.toList_ofList]
  exact TextPattern.matchesChars_time (hhour m.hour).1 (hhour m.hour).2 (hminute m.minute).1
    (hminute m.minute).2

/-! ## Checks of new records -/

section

variable {x : Value} {guarded : Bool} {test : Test} {message : String}

theorem Check.complaints?_of_falsy (hx : x.isTruthy = false) :
    (Check.mk true test message).complaints? x = some [] := by
  simp [complaints?, expression, Expression.eval?, hx]

theorem Check.complaints?_of_false (h : test.expression.eval? x = some (.boolean false)) :
    (Check.mk guarded test message).complaints? x = some [] := by
  cases guarded
  · simp [complaints?, expression, h]
  · cases hx : x.isTruthy
    · exact complaints?_of_falsy hx
    · simp [complaints?, expression, Expression.eval?, hx, h]

theorem Check.complaints?_of_true (hx : x.isTruthy = true)
    (h : test.expression.eval? x = some (.boolean true)) :
    (Check.mk guarded test message).complaints? x = some [message] := by
  cases guarded
  · simp [complaints?, expression, h]
  · simp [complaints?, expression, Expression.eval?, hx, h]

end

theorem eval?_mismatch {x : Value} {s pattern : String} {p : TextPattern}
    (hx : x.text? = some s) (hp : TextPattern.ofSource? pattern = some p) :
    (Test.mismatch pattern).expression.eval? x = some (.boolean !p.matchesText s) := by
  simp [Test.expression, Expression.eval?, hx, hp]

theorem eval?_notInteger {x : Value} {n : Binary64} (hx : x.number? = some n) :
    Test.notInteger.expression.eval? x = some (.boolean !(Value.number n).isInteger) := by
  simp [Test.expression, Expression.eval?, hx]

theorem eval?_notNumber {x : Value} {n : Binary64} (hx : x.number? = some n) :
    Test.notNumber.expression.eval? x = some (.boolean (Value.number n).isNaN) := by
  simp [Test.expression, Expression.eval?, hx]

theorem eval?_notOneOf (x : Value) (options : List String) :
    (Test.notOneOf options).expression.eval? x = some (.boolean !x.isOneOf options) := by
  simp [Test.expression, Expression.eval?]

theorem eval?_notDate (m : Moment) :
    Test.notDate.expression.eval? (.date m) = some (.boolean false) := by
  simp [Test.expression, Expression.eval?]

theorem eval?_notDates (m n : Moment) :
    Test.notDates.expression.eval? (.span (.date m) (.date n)) = some (.boolean false) := by
  simp [Test.expression, Expression.eval?]

theorem eval?_endMismatch {s t pattern : String} {p : TextPattern}
    (hp : TextPattern.ofSource? pattern = some p) (hs : p.matchesText s = true)
    (ht : p.matchesText t = true) :
    (Test.endMismatch pattern).expression.eval? (.span (.text s) (.text t)) =
      some (.boolean false) := by
  simp [Test.expression, Expression.eval?, hp, hs, ht]

/-- If each item has a value, so have all of them together. -/
theorem mapM_eq_some {α β : Type} {value? : α → Option β} {value : α → β} {items : List α}
    (h : ∀ a ∈ items, value? a = some (value a)) :
    items.mapM value? = some (items.map value) := by
  induction items with
  | nil => rfl
  | cons a items ih =>
    rw [List.forall_mem_cons] at h
    rw [List.mapM_cons, h.1, ih h.2]
    rfl

/-- What each check says is said one after the other. -/
theorem complaints?_of_checks {x : Value} {f : Field} {said : Check → List String}
    (h : ∀ c ∈ checks f, c.complaints? x = some (said c)) :
    complaints? x f = some ((checks f).flatMap said) := by
  rw [complaints?, mapM_eq_some h, Option.map_some, List.flatMap_def]

/-- The checks of fields that may be left out, each with the kind of the values of its field. -/
inductive OptionalCheck : ValueKind → Check → Prop
  | text {pattern : String} (h : pattern ∈ [emailPattern, urlPattern, phonePattern])
    (message : String) : OptionalCheck .string ⟨true, .mismatch pattern, message⟩
  | choice (options : List String) (message : String) :
    OptionalCheck .string ⟨true, .notOneOf options, message⟩
  | integer (message : String) : OptionalCheck .integer ⟨false, .notInteger, message⟩
  | float (message : String) : OptionalCheck .float ⟨false, .notNumber, message⟩
  | date (message : String) : OptionalCheck .date ⟨true, .notDate, message⟩
  | dateRange (message : String) : OptionalCheck .dateRange ⟨true, .notDates, message⟩
  | time (message : String) : OptionalCheck .time ⟨true, .mismatch timePattern, message⟩
  | timeRange (message : String) :
    OptionalCheck .timeRange ⟨true, .endMismatch timePattern, message⟩

theorem OptionalCheck.complaints?_newValue {k : ValueKind} {c : Check} (h : OptionalCheck k c)
    (now : Moment × Moment) : c.complaints? (newValue now k) = some [] := by
  have htime : TextPattern.ofSource? timePattern = some .time := by decide
  cases h with
  | text | choice => exact Check.complaints?_of_falsy rfl
  | integer =>
    have heval := eval?_notInteger (rfl : Value.zero.number? = some (.finite (.zero false)))
    rw [← Value.zero, Value.isInteger_zero] at heval
    exact Check.complaints?_of_false heval
  | float =>
    have heval := eval?_notNumber (rfl : Value.zero.number? = some (.finite (.zero false)))
    exact Check.complaints?_of_false heval
  | date => exact Check.complaints?_of_false (eval?_notDate _)
  | dateRange => exact Check.complaints?_of_false (eval?_notDates _ _)
  | time =>
    have heval := eval?_mismatch (rfl : (Value.text (currentTime now.1)).text? = _) htime
    rw [matchesText_currentTime] at heval
    exact Check.complaints?_of_false heval
  | timeRange =>
    exact Check.complaints?_of_false (eval?_endMismatch htime (matchesText_currentTime _)
      (matchesText_currentTime _))

theorem eval?_mismatch_prototype {pattern : String}
    (h : pattern ∈ [emailPattern, urlPattern, phonePattern, timePattern]) :
    (Test.mismatch pattern).expression.eval? .prototype = some (.boolean true) := by
  have hread : ∀ s ∈ [emailPattern, urlPattern, phonePattern, timePattern],
      ∃ p ∈ [TextPattern.email, .url, .phone, .time], TextPattern.ofSource? s = some p := by
    decide
  obtain ⟨p, hp, hsource⟩ := hread pattern h
  rw [eval?_mismatch rfl hsource, TextPattern.matchesText_object hp]
  rfl

/-- The object that all objects come from is no value for a field whose values are no objects. -/
theorem OptionalCheck.complaints?_prototype {k : ValueKind} {c : Check} (h : OptionalCheck k c)
    {now : Moment × Moment} (hk : (newValue now k).isObject = false) :
    c.complaints? .prototype = some [c.message] := by
  cases h with
  | text hpattern =>
    have hread := List.mem_append_left [timePattern] hpattern
    exact Check.complaints?_of_true rfl (eval?_mismatch_prototype hread)
  | choice => exact Check.complaints?_of_true rfl (eval?_notOneOf _ _)
  | integer | float => exact Check.complaints?_of_true rfl rfl
  | time => exact Check.complaints?_of_true rfl (eval?_mismatch_prototype (by simp))
  | date | dateRange | timeRange => contradiction

section

variable {f : Field} (hc : IsClassified f) (hr : f.isRequired = false)

include hc hr

theorem optionalCheck_of_mem_checks {c : Check} (h : c ∈ checks f) :
    OptionalCheck f.valueKind c := by
  have hvalidator := optionalValidator hc hr
  rw [checks, hr] at h
  have hcheck : validatorCheck? f = some c := Option.mem_toList.mp h
  unfold validatorCheck? at hcheck
  generalize f.classification.validator = v, f.valueKind = k at hvalidator hcheck
  cases hvalidator with
  | none => contradiction
  | email | url | phone =>
    obtain rfl := Option.some.inj hcheck
    exact .text (by decide) _
  | oneOf =>
    obtain rfl := Option.some.inj hcheck
    exact .choice _ _
  | integer =>
    obtain rfl := Option.some.inj hcheck
    exact .integer _
  | number =>
    obtain rfl := Option.some.inj hcheck
    exact .float _
  | date =>
    obtain rfl := Option.some.inj hcheck
    exact .date _
  | dateRange =>
    obtain rfl := Option.some.inj hcheck
    exact .dateRange _
  | time =>
    obtain rfl := Option.some.inj hcheck
    exact .time _
  | timeRange =>
    obtain rfl := Option.some.inj hcheck
    exact .timeRange _

/-- **No check of a field that may be left out complains about its new value.** -/
theorem complaints?_newValue (now : Moment × Moment) :
    complaints? (newValue now f.valueKind) f = some [] := by
  rw [complaints?_of_checks fun c hmem =>
    (optionalCheck_of_mem_checks hc hr hmem).complaints?_newValue now]
  simp

/-- Every check complains about the object that all objects come from. -/
theorem complaints?_prototype {now : Moment × Moment}
    (hobject : (newValue now f.valueKind).isObject = false) :
    complaints? .prototype f = some ((checks f).map Check.message) := by
  rw [complaints?_of_checks fun c hmem =>
    (optionalCheck_of_mem_checks hc hr hmem).complaints?_prototype hobject, List.map_eq_flatMap]

end

/-! ## Constraints -/

/-- Whether a value is one of a kind. -/
def isOfKind : ValueKind → Value → Bool
  | .string, .text _ | .time, .text _ => true
  | .integer, .number x | .float, .number x => x ≠ .notANumber
  | .boolean, .boolean _ => true
  | .date, .date _ => true
  | .dateRange, .object [("start", .date _), ("end", .date _)] => true
  | .timeRange, .object [("start", .text _), ("end", .text _)] => true
  | .stringList, .list _ => true
  | _, _ => false

/-- Whether a text may be stored under a pattern. -/
def isMatch (pattern s : String) : Bool :=
  s = "" || (TextPattern.ofSource? pattern).any (·.matchesText s)

/--
Whether the database takes a value under a constraint. Only a constraint that asks for a value looks
at no value at all, and a pattern is not looked for in the empty text.
-/
def Constraint.admits (x : Value) : Constraint → Bool
  | type definition =>
    x.isAbsent || valueKinds.any fun k => k.storedType = definition && isOfKind k x
  | required => !x.isAbsent && !x.isOneOf [""]
  | matching pattern => x.isAbsent || x.text?.any (isMatch pattern)
  | oneOf options => x.isAbsent || x.isOneOf options
  | default _ | trimmed => true

/-- The constraints on fields that may be left out, each with the kind of the values. -/
inductive OptionalConstraint : ValueKind → Constraint → Prop
  | type (k : ValueKind) : OptionalConstraint k (.type k.storedType)
  | matching : OptionalConstraint .string (.matching emailPattern)
  | oneOf (options : List String) : OptionalConstraint .string (.oneOf options)
  | default (k : ValueKind) (expression : String) : OptionalConstraint k (.default expression)
  | trimmed (k : ValueKind) : OptionalConstraint k .trimmed

theorem isOfKind_newValue (now : Moment × Moment) (k : ValueKind) :
    isOfKind k (newValue now k) = true := by
  cases k <;> rfl

theorem OptionalConstraint.admits_undefined {k : ValueKind} {c : Constraint}
    (h : OptionalConstraint k c) : c.admits .undefined = true := by
  cases h <;> rfl

theorem OptionalConstraint.admits_newValue_iff {k : ValueKind} {c : Constraint}
    (h : OptionalConstraint k c) (now : Moment × Moment) :
    c.admits (newValue now k) = true ↔ ∀ options, c = .oneOf options → "" ∈ options := by
  cases h with
  | type =>
    have hkinds : k ∈ valueKinds := by cases k <;> decide
    have htype : valueKinds.any (fun j =>
        j.storedType = k.storedType && isOfKind j (newValue now k)) = true :=
      List.any_eq_true.mpr ⟨k, hkinds, by simp [isOfKind_newValue]⟩
    simp [Constraint.admits, htype]
  | matching => simp [Constraint.admits, newValue, isMatch]
  | oneOf options => simp [Constraint.admits, newValue, Value.isAbsent, Value.isOneOf]
  | default => simp [Constraint.admits]
  | trimmed => simp [Constraint.admits]

theorem optionalConstraint_of_mem_constraints {f : Field} (hc : IsClassified f)
    (hr : f.isRequired = false) {c : Constraint} (h : c ∈ constraints f) :
    OptionalConstraint f.valueKind c := by
  have hvalidator : ∀ d ∈ validatorConstraints f.classification.validator,
      OptionalConstraint f.valueKind d := by
    have hfits := optionalValidator hc hr
    generalize f.classification.validator = v, f.valueKind = k at hfits
    cases hfits with
    | email => exact List.forall_mem_singleton.mpr .matching
    | oneOf options => exact List.forall_mem_singleton.mpr (.oneOf options)
    | _ => exact fun _ hd => absurd hd List.not_mem_nil
  have hdefault : ∀ d ∈ defaultConstraints f, OptionalConstraint f.valueKind d := by
    intro d hd
    obtain ⟨expression, rfl⟩ : ∃ expression, d = .default expression := by
      unfold defaultConstraints at hd
      split at hd
      · exact ⟨_, List.mem_singleton.mp hd⟩
      · exact ⟨_, List.mem_singleton.mp hd⟩
      · rw [hr] at hd
        exact ⟨_, List.mem_singleton.mp hd⟩
      · exact absurd hd List.not_mem_nil
    exact .default _ _
  have htrimmed : ∀ d ∈ if isTrimmed f.widget then [Constraint.trimmed] else [],
      OptionalConstraint f.valueKind d := by
    split
    · exact List.forall_mem_singleton.mpr (.trimmed _)
    · exact fun _ hd => absurd hd List.not_mem_nil
  rw [constraints, hr] at h
  simp only [List.mem_append, List.mem_singleton] at h
  obtain (((rfl | hd) | hd) | hd) | hd := h
  · exact .type _
  · exact absurd hd List.not_mem_nil
  · exact hvalidator c hd
  · exact hdefault c hd
  · exact htrimmed c hd

end EntitySlice.Slice
