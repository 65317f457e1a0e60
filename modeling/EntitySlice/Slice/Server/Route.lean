import EntitySlice.Slice.Form

/-!
# The route

The module that hands requests to the functions of the controller, by the method of the request and
its parameters.
-/

namespace EntitySlice.Slice

open EntitySlice.Source

/-- A function that answers the requests of one method. -/
def methodHandler (method : String) (body : List String) : Declaration :=
  .handler method "req: Request" (code body)

/-- The call that hands a request to an operation. -/
def handTo (e : Entity) (o : Operation) : String := e.naming.operationName o ++ "(req)"

/-- The statement that hands a request for many records to one operation, any other to another. -/
def handToEither (e : Entity) (bulk single : Operation) : String :=
  "return isBulk(req) ? " ++ handTo e bulk ++ " : " ++ handTo e single ++ ";"

/-- The module of the route. -/
def route (e : Entity) : File where
  sections :=
    [[.comment ("Auto-generated route handlers for " ++ e.naming.plural),
      .imported
        { names := Operation.all.map e.naming.operationName, source := "./controller",
          tall := true }],
     [.declared (.const false "isBulk"
       { first :=
          " = (req: Request) => new URL(req.url).searchParams.get('bulk') === 'true';" })],
     [.declared (methodHandler "GET"
       ["const params = new URL(req.url).searchParams;",
        "if (params.get('summary') === 'true') return " ++ handTo e .summary ++ ";",
        "if (params.get('id')) return " ++ handTo e .getById ++ ";",
        "return " ++ handTo e .list ++ ";"])],
     [.declared (methodHandler "POST" ["return " ++ handTo e .add ++ ";"])],
     [.declared (methodHandler "PUT" [handToEither e .bulkUpdate .update])],
     [.declared (methodHandler "DELETE" [handToEither e .bulkDelete .delete])]]

end EntitySlice.Slice
