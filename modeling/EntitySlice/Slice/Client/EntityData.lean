import EntitySlice.Slice.Validation

/-!
# The shape of the records

The module that says what a record is: its interface, a new record, and the checks before it is
sent.
-/

namespace EntitySlice.Slice

open EntitySlice.Source

/-- The properties of the interface of the records. -/
def entityProperties (e : Entity) : List Line :=
  [propertyLine "_id?" "string"]
    ++ e.fields.map (fun f => propertyLine (propertyKey f.name) f.valueKind.codeType)
    ++ [propertyLine "createdAt?" "Date", propertyLine "updatedAt?" "Date"]

/-- The members of a new record. -/
def defaultMembers (e : Entity) : List Member :=
  e.fields.map fun f => .entry (propertyKey f.name) f.classification.default.expression

/-- The checks of a record. -/
def validationLines (e : Entity) : List Line :=
  e.fields.flatMap (checkLines "item")

/-- The module of the shape of the records. -/
def entityData (e : Entity) : File where
  sections :=
    [[.comment ("Auto-generated entity shape for " ++ e.naming.plural),
      .declared (.interface true e.naming.interfaceName (entityProperties e))],
     [.declared (.const true e.naming.defaultConst
       { first := " = (): " ++ e.naming.interfaceName ++ r" => ({"
         body := (defaultMembers e).map memberLine
         last? := some r"});" })],
     [.declared (.const true e.naming.validateFn
       { first := " = (item: Partial<" ++ e.naming.interfaceName ++ r">): string[] => {"
         body := code ["const errors: string[] = [];"] ++ validationLines e
           ++ code ["return errors;"]
         last? := some r"};" })]]

end EntitySlice.Slice
