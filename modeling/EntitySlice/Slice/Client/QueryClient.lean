import EntitySlice.Slice.Form

/-!
# The query client

The module through which the page talks to the server: one definition for each operation, and the
hooks that the client library derives from their names.
-/

namespace EntitySlice.Slice

open EntitySlice.Source

/-- What the client is told about an operation. -/
structure EndpointDefinition where
  operation : Operation
  /-- The function from the argument to the request, on one line or two. -/
  query : List Line
  /-- What the answers are kept under, or which kept answers become stale. -/
  tags : String
  deriving DecidableEq, Repr

/-- The key of the tags of an operation. -/
def tagsKey (o : Operation) : String :=
  if o.isQuery then "providesTags" else "invalidatesTags"

/-- The definition of an operation as it is written. -/
def EndpointDefinition.lines (n : Naming) (d : EndpointDefinition) : List Line :=
  block (n.operationName d.operation ++ ": builder." ++ d.operation.builder ++ r"({")
    (d.query ++ code [tagsKey d.operation ++ ": " ++ d.tags ++ ","]) r"}),"

/-- The tags of answers that any change makes stale. -/
def listTags (n : Naming) : String := r"[{ type: '" ++ n.tagType ++ r"', id: 'LIST' }]"

/-- What an update takes from its argument. -/
def updateArgument : Pattern := { names := ["id"], rest? := some "data" }

/-- The body of the request of an update. -/
def updateBody : List Member := [.shorthand "id", .spread "data"]

/-- The function to a request with the given address, method and body. -/
def queryLine (argument url method body : String) : Line :=
  Line.code ("query: (" ++ argument ++ r") => ({ url: '" ++ url ++ "', method: '" ++ method ++ "', "
    ++ body ++ r" }),")

/-- The definitions of all operations, in the order in which they are written. -/
def endpointDefinitions (n : Naming) : List EndpointDefinition :=
  [{ operation := .list
     query :=
      Line.code r"query: ({ page, limit, q, startDate, endDate }: ListQueryParams) =>"
        :: nest (code [r"toSearch({ page, limit, q, startDate, endDate }),"])
     tags := listTags n },
   { operation := .getById
     query := code [r"query: (id: string) => toSearch({ id }),"]
     tags := r"(_result, _error, id) => [{ type: '" ++ n.tagType ++ r"', id }]" },
   { operation := .add
     query := [queryLine ("body: " ++ n.interfaceName) "" "POST" "body"]
     tags := listTags n },
   { operation := .update
     query :=
      [queryLine (updateArgument.source ++ ": Partial<" ++ n.interfaceName ++ r"> & { id: string }")
        "" "PUT" ("body: " ++ object updateBody)]
     tags := listTags n },
   { operation := .delete
     query := [queryLine r"{ id }: { id: string }" "" "DELETE" r"body: { id }"]
     tags := listTags n },
   { operation := .bulkUpdate
     query :=
      [queryLine (r"updates: { id: string; updateData: Partial<" ++ n.interfaceName ++ r"> }[]")
        "?bulk=true" "PUT" "body: updates"]
     tags := listTags n },
   { operation := .bulkDelete
     query := [queryLine "ids: string[]" "?bulk=true" "DELETE" r"body: { ids }"]
     tags := listTags n },
   { operation := .summary
     query :=
      Line.code r"query: ({ startDate, endDate }: { startDate?: string; endDate?: string }) =>"
        :: nest (code [r"toSearch({ summary: 'true', startDate, endDate }),"])
     tags := listTags n }]

/-- The parameters of a request for a list. -/
def listParameters : Declaration :=
  .interface true "ListQueryParams"
    [propertyLine "page" "number", propertyLine "limit" "number", propertyLine "q?" "string",
      propertyLine "startDate?" "string", propertyLine "endDate?" "string"]

/-- The function that writes parameters into an address. -/
def toSearch : Declaration :=
  .const false "toSearch"
    { first := r" = (params: Record<string, string | number | undefined>) => {"
      body :=
        code ["const search = new URLSearchParams();"]
          ++ block r"Object.entries(params).forEach(([key, value]) => {"
            (code ["if (value !== undefined && value !== '') search.set(key, String(value));"])
            r"});"
          ++ code [r"return `?${search.toString()}`;"]
      last? := some r"};" }

/-- The line that says where requests go. -/
def baseUrlLine (e : Entity) : Line :=
  Line.code (r"baseQuery: fetchBaseQuery({ baseUrl: '" ++ e.requestAddress ++ r"' }),")

/-- The object with all operations. -/
def apiSliceConst (e : Entity) : Declaration :=
  .const true e.naming.apiSlice
    { first := r" = createApi({"
      body :=
        [Line.code ("reducerPath: '" ++ e.naming.apiSlice ++ "',"), baseUrlLine e,
          Line.code ("tagTypes: ['" ++ e.naming.tagType ++ "'],")]
        ++ block r"endpoints: (builder) => ({"
          ((endpointDefinitions e.naming).flatMap (·.lines e.naming)) r"}),"
      last? := some r"});" }

/-- The module of the query client. -/
def queryClient (e : Entity) : File where
  sections :=
    [[.comment ("Auto-generated query client for " ++ e.naming.plural),
      .imported (.named ["createApi", "fetchBaseQuery"] "@reduxjs/toolkit/query/react"),
      .imported (.named [e.naming.interfaceName] "../store/data/data")],
     [.declared listParameters], [.declared toSearch], [.declared (apiSliceConst e)],
     [.declared (.members (Operation.all.map e.naming.hook) e.naming.apiSlice)]]

end EntitySlice.Slice
