import EntitySlice.Slice.Validation

/-!
# The database model

The module that says how the records of an entity are stored: the type and the constraints of each
field, and an index over the fields that a search looks at.
-/

namespace EntitySlice.Slice

open EntitySlice.Source

/-- What the database knows about a field. -/
inductive Constraint
  | type (definition : String)
  | required
  | matching (pattern : String)
  | oneOf (options : List String)
  | default (expression : String)
  | trimmed
  deriving DecidableEq, Repr

/-- The constraint as a member of the definition of a field. -/
def Constraint.member : Constraint → Member
  | type definition => .entry "type" definition
  | required => .entry "required" "true"
  | matching pattern => .entry "match" pattern
  | oneOf options => .entry "enum" (literalList options)
  | default expression => .entry "default" expression
  | trimmed => .entry "trim" "true"

/-- The constraint that a validator puts on the stored values. -/
def validatorConstraints : Validator → List Constraint
  | .email => [.matching emailPattern]
  | .oneOf options => [.oneOf options]
  | _ => []

/-- The default that the database has for a field. -/
def defaultConstraints (f : Field) : List Constraint :=
  match f.valueKind with
  | .stringList => [.default "[]"]
  | .boolean => [.default "false"]
  | .date => if f.isRequired then [] else [.default "Date.now"]
  | _ => []

/-- Whether blanks around the stored values are removed. -/
def isTrimmed : Widget → Bool
  | .text | .email => true
  | _ => false

/-- What the database knows about a field, in the order in which it is told. -/
def constraints (f : Field) : List Constraint :=
  [.type f.valueKind.storedType]
    ++ (if f.isRequired then [.required] else [])
    ++ validatorConstraints f.classification.validator
    ++ defaultConstraints f
    ++ (if isTrimmed f.widget then [.trimmed] else [])

/-- The definition of a field in the database schema. -/
def fieldMember (f : Field) : Member :=
  .entry (propertyKey f.name) (object ((constraints f).map Constraint.member))

/-- The members of the index for searches. -/
def indexMembers (e : Entity) : List Member :=
  e.searchable.map fun f => .entry (propertyKey f.name) "'text'"

/-- The statement that makes the index for searches, if there is something to search. -/
def indexSection (e : Entity) : List (List Item) :=
  if e.searchable.isEmpty then []
  else
    [[.declared (.effect
      (e.naming.schemaConst ++ ".index(" ++ object (indexMembers e) ++ ");"))]]

/-- The module of the database model. -/
def model (e : Entity) : File where
  sections :=
    [[.comment ("Auto-generated mongoose model for " ++ e.naming.plural),
      .imported { default? := some "mongoose", names := ["Schema"], source := "mongoose" }],
     [.declared (.const false e.naming.schemaConst
      { first := " = new Schema("
        body := block r"{" (e.fields.map fun f => memberLine (fieldMember f)) r"},"
          ++ code [r"{ timestamps: true }"]
        last? := some ");" })]]
    ++ indexSection e
    ++ [[.declared (.value
      ("mongoose.models." ++ e.naming.modelName ++ " || mongoose.model('" ++ e.naming.modelName
        ++ "', " ++ e.naming.schemaConst ++ ")"))]]

end EntitySlice.Slice
