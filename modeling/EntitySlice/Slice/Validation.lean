import EntitySlice.Slice.Form

/-!
# Checks of records

What the code of a slice checks before it sends a record: whether a required value is there, and
whether a value is what the validator of its field asks for. A check is a test with a message; a
guarded check looks at values that are there only.
-/

namespace EntitySlice.Slice

open EntitySlice.Source

/-- What a test finds wrong with a value. -/
inductive Test
  /-- The value is falsy. -/
  | missing
  | missingNumber
  | undefined
  | missingItems
  | missingEnds
  /-- The text of the value does not match a pattern. -/
  | mismatch (pattern : String)
  | notInteger
  | notNumber
  | notDate
  | notDates
  /-- One end of the value does not match a pattern. -/
  | endMismatch (pattern : String)
  | notOneOf (options : List String)
  deriving DecidableEq, Repr

/-- The condition under which the test finds something wrong with `v`. -/
def Test.source (v : String) : Test → String
  | missing => "!" ++ v
  | missingNumber =>
    v ++ " === undefined || " ++ v ++ " === null || Number.isNaN(Number(" ++ v ++ "))"
  | undefined => v ++ " === undefined"
  | missingItems => "!" ++ v ++ " || " ++ v ++ ".length === 0"
  | missingEnds => "!" ++ v ++ " || !" ++ v ++ ".start || !" ++ v ++ ".end"
  | mismatch pattern => "!" ++ pattern ++ ".test(String(" ++ v ++ "))"
  | notInteger => "!Number.isInteger(Number(" ++ v ++ "))"
  | notNumber => "Number.isNaN(Number(" ++ v ++ "))"
  | notDate => "Number.isNaN(new Date(" ++ v ++ ").getTime())"
  | notDates =>
    "(Number.isNaN(new Date(" ++ v ++ ".start).getTime()) || Number.isNaN(new Date(" ++ v
      ++ ".end).getTime()))"
  | endMismatch pattern =>
    "(!" ++ pattern ++ ".test(" ++ v ++ ".start) || !" ++ pattern ++ ".test(" ++ v ++ ".end))"
  | notOneOf options => "!" ++ literalList options ++ ".includes(" ++ v ++ ")"

/-- A test with what is said if it finds something wrong. -/
structure Check where
  /-- Whether the test is left out for a falsy value. -/
  guarded : Bool
  test : Test
  message : String
  deriving DecidableEq, Repr

namespace Check

/-- The condition under which the check complains about `v`. -/
def condition (v : String) (c : Check) : String :=
  if c.guarded then v ++ " && " ++ c.test.source v else c.test.source v

/-- The check of `v` as a statement. -/
def statement (v : String) (c : Check) : String :=
  "if (" ++ c.condition v ++ ") errors.push(" ++ literal c.message ++ ");"

end Check

/-! ## Patterns -/

/-- The pattern of mail addresses. -/
def emailPattern : String := r"/^[^\s@]+@[^\s@]+\.[^\s@]+$/"

/-- The pattern of web addresses. -/
def urlPattern : String := r"/^https?:\/\/\S+$/"

/-- The pattern of phone numbers. -/
def phonePattern : String := r"/^\+?[0-9\s()-]{6,20}$/"

/-- The pattern of times of day. -/
def timePattern : String := r"/^\d{2}:\d{2}$/"

/-! ## Checks of a field -/

/-- The test whether a required value is missing. -/
def missingTest : ValueKind → Test
  | .integer | .float => .missingNumber
  | .boolean => .undefined
  | .stringList => .missingItems
  | .dateRange | .timeRange => .missingEnds
  | .string | .date | .time => .missing

/-- The check that a required value is there. -/
def requiredCheck (f : Field) : Check where
  guarded := false
  test := missingTest f.valueKind
  message := f.title ++ " is required"

/-- The check of a field with a guarded test. -/
def validityCheck (f : Field) (test : Test) : Check := ⟨true, test, f.title ++ " is not valid"⟩

/-- The check that a validator asks for. -/
def validatorCheck? (f : Field) : Option Check :=
  match f.classification.validator with
  | .none | .nonEmptyList => none
  | .email => some (validityCheck f (.mismatch emailPattern))
  | .url => some (validityCheck f (.mismatch urlPattern))
  | .phone => some (validityCheck f (.mismatch phonePattern))
  | .integer => some ⟨false, .notInteger, f.title ++ " must be a whole number"⟩
  | .number => some ⟨false, .notNumber, f.title ++ " must be a number"⟩
  | .date => some (validityCheck f (if f.valueKind = .dateRange then .notDates else .notDate))
  | .time =>
    some (validityCheck f
      (if f.valueKind = .timeRange then .endMismatch timePattern else .mismatch timePattern))
  | .oneOf options =>
    some ⟨true, .notOneOf options, f.title ++ " must be one of the allowed options"⟩

/-- The checks of a field, in the order in which they are made. -/
def checks (f : Field) : List Check :=
  (if f.isRequired then [requiredCheck f] else []) ++ (validatorCheck? f).toList

/-- The checks of the field of an object as statements. -/
def checkLines (object : String) (f : Field) : List Line :=
  (checks f).map fun c => Line.code (c.statement (member object f.name))

end EntitySlice.Slice
