import EntitySlice.Generation

/-!
# The service

Requests to the service and its answers. A submission carries a schema in its body; whatever goes
wrong with it, the answer is the same, so that nothing about the machine gets out. Requests before
others from a browser are allowed everywhere.
-/

namespace EntitySlice

open EntitySlice.Number

/-- A request. -/
structure Request where
  method : String
  /-- The address: a path, and perhaps a machine before it and a query behind it. -/
  target : String
  body : ByteArray

/-- An answer. -/
structure Response where
  status : Nat
  body : String
  deriving DecidableEq, Repr

namespace Service

/-- The places of the service. -/
inductive Place
  | submission
  | health
  deriving DecidableEq, Repr

/-- The name of the program. -/
def name : String := "template-generator"

/-- The version of the program. -/
def version : String := "0.1.0"

/-- The greatest number of bytes in a body. -/
def maxBodySize : Nat := 2097152

/-- Whether a character ends the name of the machine in an address. -/
def endsMachine (c : Char) : Bool :=
  c = '/' || c = '?' || c = '#'

/-- An address without the machine, which stands behind a colon and two slashes. -/
def withoutMachine (address : List Char) : List Char :=
  match address.dropWhile fun c => c ≠ ':' && !endsMachine c with
  | ':' :: '/' :: '/' :: rest => rest.dropWhile fun c => !endsMachine c
  | _ => address

/-- The path of an address, without the query. -/
def pathOf (target : String) : String :=
  String.ofList ((withoutMachine target.toList).takeWhile fun c => c ≠ '?' && c ≠ '#')

/-- The place that an address leads to. -/
def placeOf? (target : String) : Option Place :=
  if pathOf target = "/api/template-generator" then some .submission
  else if pathOf target = "/health" then some .health
  else none

/-- An answer with a message. -/
def reply (status : Nat) (message : String) : Response :=
  ⟨status, (Json.Value.object
    [("message", .string message), ("status", .number (.integer status))]).compact⟩

/-- An answer without a body. -/
def emptyReply (status : Nat) : Response := ⟨status, ""⟩

/-- The answer to any submission that fails. -/
def failureReply : Response := reply 500 "Failed to generate slice"

/-- The answer to a submission that succeeds. -/
def successReply (r : Report) : Response :=
  reply 200 <|
    s!"Generated {natText r.files.length} files for '{r.folder}' under "
      ++ s!"src/app/{r.root.name}/{r.folder}"

/-- The answer that the service is there. -/
def healthReply : Response :=
  ⟨200, (Json.Value.object [("status", .string "healthy"), ("service", .string name),
    ("version", .string version)]).compact⟩

/-- The text of the schema in the body of a submission. -/
def submittedSchema (body : ByteArray) : Except Failure String :=
  if maxBodySize < body.size then .error (.schema .bodyNotText)
  else
    match String.fromUTF8? body with
    | none => .error (.schema .bodyNotText)
    | some text => (requestedSchema text).mapError .schema

variable {m : Type → Type} [Monad m] [FileStore m]

/-- The answer to a submission. -/
def submit (g : Generator) (body : ByteArray) : m Response := do
  match submittedSchema body with
  | .error _ => return failureReply
  | .ok text =>
    match ← g.generate text with
    | .ok report => return successReply report
    | .error _ => return failureReply

/-- The answer to a request. -/
def respond (g : Generator) (r : Request) : m Response := do
  if r.method = "OPTIONS" then return emptyReply 200
  match placeOf? r.target with
  | none => return emptyReply 404
  | some .submission => if r.method = "POST" then submit g r.body else return emptyReply 405
  | some .health =>
    if r.method = "GET" then return healthReply
    else if r.method = "HEAD" then return emptyReply 200
    else return emptyReply 405

end Service

end EntitySlice
