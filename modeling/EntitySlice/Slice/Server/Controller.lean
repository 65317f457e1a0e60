import EntitySlice.Slice.Form

/-!
# The controller

The module that answers requests: one exported function for each operation, each of them wrapped so
that it has a database connection and that failures become answers.
-/

namespace EntitySlice.Slice

open EntitySlice.Source

/-- An answer with data, a message and a status. -/
def respond (data message : String) (status : String) : String :=
  "formatResponse(" ++ data ++ ", " ++ literal message ++ ", " ++ status ++ ")"

/-- The statement that ends a function with an answer. -/
def returnResponse (data message status : String) : String :=
  "return " ++ respond data message status ++ ";"

/-- The statement that ends a function if a condition holds. -/
def rejectIf (condition message status : String) : String :=
  "if (" ++ condition ++ ") return " ++ respond "null" message status ++ ";"

/-- The exported function of an operation. -/
def handlerConst (e : Entity) (o : Operation) (body : List Line) : Declaration :=
  .const true (e.naming.operationName o)
    { first := r" = withDB(async (req: Request) => {", body, last? := some r"});" }

/-! ## Functions that the operations share -/

/-- The type of the functions that answer requests. -/
def handlerType : Declaration :=
  .type false "Handler" "(req: Request) => Promise<Response>"

/-- The function that makes answers. -/
def formatResponse : Declaration :=
  .const false "formatResponse"
    { first := " = (data: unknown, message: string, status: number) =>"
      body := code [r"NextResponse.json({ data, message, status }, { status });"] }

/-- The function that wraps a handler. -/
def withDatabase : Declaration :=
  .const false "withDB"
    { first := r" = (handler: Handler): Handler => async (req: Request) => {"
      body :=
        block r"try {" (code ["await connectDB();", "return await handler(req);"])
            r"} catch (error: unknown) {"
          ++ nest
            (code [r"const err = error as { code?: number; message?: string };"]
              ++ block r"if (err.code === 11000) {"
                (code [returnResponse "null" "Duplicate key error" "400"]) r"}"
              ++ code ["return formatResponse(null, err.message ?? 'Internal server error', 500);"])
          ++ code [r"}"]
      last? := some r"};" }

/-- The function that makes a text match itself in a pattern. -/
def escapeRegex : Declaration :=
  .const false "escapeRegex"
    { first := r" = (value: string) => value.replace(/[.*+?^${}()|[\]\\]/g, '\\$&');" }

/-- The function that finds records by the time of their creation. -/
def dateRangeFilter : Declaration :=
  .const false "dateRangeFilter"
    { first := r" = (url: URL) => {"
      body := code
        ["const startDate = url.searchParams.get('startDate');",
         "const endDate = url.searchParams.get('endDate');",
         r"if (!startDate || !endDate) return {};",
         "const end = new Date(endDate);",
         "end.setHours(23, 59, 59, 999);",
         r"return { createdAt: { $gte: new Date(startDate), $lte: end } };"]
      last? := some r"};" }

/-! ## Operations -/

/-- The terms of a search, one for each field it looks at. -/
def searchTerms (e : Entity) : List Member :=
  e.searchable.map fun f => .entry (propertyKey f.name) "regex"

/-- The statements that narrow a list to what a search finds. -/
def searchLines (e : Entity) : List Line :=
  if e.searchable.isEmpty then code ["void q;"]
  else
    block r"if (q) {"
      (code ["const regex = new RegExp(escapeRegex(q), 'i');",
        "filter.$or = [" ++ ", ".intercalate ((searchTerms e).map fun m => object [m]) ++ "];"])
      r"}"

/-- The members of the answer to a request for a list. -/
def listMembers (n : Naming) : List Member :=
  [.entry n.pluralCamel "items", .shorthand "total", .shorthand "page", .shorthand "limit"]

/-- The answer to a request for a list. -/
def listHandler (e : Entity) : Declaration :=
  handlerConst e .list <|
    paragraphs
      [code
        ["const url = new URL(req.url);",
         "const page = Math.max(parseInt(url.searchParams.get('page') || '1', 10), 1);",
         "const limit = Math.max(parseInt(url.searchParams.get('limit') || '10', 10), 1);",
         "const skip = (page - 1) * limit;",
         "const q = url.searchParams.get('q');"],
       Line.code r"const filter: Record<string, unknown> = { ...dateRangeFilter(url) };"
         :: searchLines e,
       block "const [items, total] = await Promise.all(["
         (code
           [e.naming.modelName
              ++ r".find(filter).sort({ updatedAt: -1, createdAt: -1 }).skip(skip).limit(limit),",
            e.naming.modelName ++ ".countDocuments(filter),"])
         "]);",
       code [returnResponse (object (listMembers e.naming))
         (e.naming.plural ++ " fetched successfully") "200"]]

/-- The answer to a request for one record. -/
def getByIdHandler (e : Entity) : Declaration :=
  handlerConst e .getById <|
    code
      ["const id = new URL(req.url).searchParams.get('id');",
       rejectIf "!id" "Id is required" "400",
       "const item = await " ++ e.naming.modelName ++ ".findById(id);",
       rejectIf "!item" (e.naming.singular ++ " not found") "404",
       returnResponse "item" (e.naming.singular ++ " fetched successfully") "200"]

/-- The answer to a request for a new record. -/
def addHandler (e : Entity) : Declaration :=
  handlerConst e .add <|
    code
      ["const body = await req.json();",
       "const created = await " ++ e.naming.modelName ++ ".create(body);",
       returnResponse "created" (e.naming.singular ++ " created successfully") "201"]

/-- What is taken from the body of a request for a change. -/
def updateRequest : Pattern := { names := ["id"], rest? := some "updateData" }

/-- The call that changes a record. -/
def changeCall (e : Entity) : String :=
  e.naming.modelName ++ r".findByIdAndUpdate(id, updateData, { new: true, runValidators: true })"

/-- The answer to a request for a change. -/
def updateHandler (e : Entity) : Declaration :=
  handlerConst e .update <|
    code
      ["const " ++ updateRequest.source ++ " = await req.json();",
       rejectIf "!id" "Id is required" "400",
       "const updated = await " ++ changeCall e ++ ";",
       rejectIf "!updated" (e.naming.singular ++ " not found") "404",
       returnResponse "updated" (e.naming.singular ++ " updated successfully") "200"]

/-- The answer to a request to delete a record. -/
def deleteHandler (e : Entity) : Declaration :=
  handlerConst e .delete <|
    code
      [r"const { id } = await req.json();",
       rejectIf "!id" "Id is required" "400",
       "const deleted = await " ++ e.naming.modelName ++ ".findByIdAndDelete(id);",
       rejectIf "!deleted" (e.naming.singular ++ " not found") "404",
       returnResponse r"{ deletedCount: 1 }" (e.naming.singular ++ " deleted successfully") "200"]

/-- The statements that count the changes that came about and those that did not. -/
def countResults : List Line :=
  code
    ["const successful = results.filter((r) => r.status === 'fulfilled' && r.value).length;",
     "const failed = results.length - successful;"]

/-- The answer to a request for many changes. -/
def bulkUpdateHandler (e : Entity) : Declaration :=
  handlerConst e .bulkUpdate <|
    code
        [r"const updates: { id: string; updateData: Record<string, unknown> }[] = "
          ++ "await req.json();"]
      ++ block "const results = await Promise.allSettled("
        (code [r"updates.map(({ id, updateData }) => " ++ changeCall e ++ ")"]) ");"
      ++ countResults
      ++ code [returnResponse r"{ successful, failed }" "Bulk update completed" "200"]

/-- The answer to a request to delete many records. -/
def bulkDeleteHandler (e : Entity) : Declaration :=
  handlerConst e .bulkDelete <|
    code
        [r"const { ids }: { ids: string[] } = await req.json();",
         "const results = await Promise.allSettled(ids.map((id) => " ++ e.naming.modelName
           ++ ".findByIdAndDelete(id)));"]
      ++ countResults
      ++ code [returnResponse r"{ deletedCount: successful, failed }" "Bulk delete completed" "200"]

/-- The name of the sum over a field in a summary. -/
def totalName (f : Field) : String := f.name ++ "Total"

/-- The sum over a field in a summary. -/
def totalMember (f : Field) : Member :=
  .entry (propertyKey (totalName f)) (r"{ $sum: " ++ literal ("$" ++ f.name) ++ r" }")

/-- The members of each row of a summary. -/
def groupMembers (e : Entity) : List Member :=
  [.entry "_id" r"{ year: { $year: '$createdAt' }, month: { $month: '$createdAt' } }",
    .entry "count" r"{ $sum: 1 }"] ++ e.numeric.map totalMember

/-- The answer to a request for a summary by month. -/
def summaryHandler (e : Entity) : Declaration :=
  handlerConst e .summary <|
    code ["const url = new URL(req.url);", "const match = dateRangeFilter(url);"]
      ++ block ("const monthly = await " ++ e.naming.modelName ++ ".aggregate([")
        (code [r"{ $match: match },"]
          ++ block r"{" (block r"$group: {" ((groupMembers e).map memberLine) r"},") r"},"
          ++ code [r"{ $sort: { '_id.year': 1, '_id.month': 1 } },"])
        "]);"
      ++ code
        [r"const totalCount = monthly.reduce((sum: number, m: { count: number }) => "
           ++ "sum + m.count, 0);",
         returnResponse r"{ monthly, totalCount }"
           (e.naming.plural ++ " summary fetched successfully") "200"]

/-- The module of the controller. -/
def controller (e : Entity) : File where
  sections :=
    [[.comment ("Auto-generated controller for " ++ e.naming.plural),
      .imported (.named ["NextResponse"] "next/server"),
      .imported (.byDefault "connectDB" "@/app/api/utils/db"),
      .imported (.byDefault e.naming.modelName "./model")]]
    ++ ([handlerType, formatResponse, withDatabase, escapeRegex, dateRangeFilter,
      listHandler e, getByIdHandler e, addHandler e, updateHandler e, deleteHandler e,
      bulkUpdateHandler e, bulkDeleteHandler e, summaryHandler e].map fun d => [Item.declared d])

end EntitySlice.Slice
