import EntitySlice.Proofs.Identities
import EntitySlice.Proofs.Regeneration
import EntitySlice.Proofs.Source.Answers

/-!
# What the page gets of a list

The controller answers a request for a list with the records under the camel-case plural of the
entity, and with their number, the page and its length under names of their own. The page reads the
records under the camel-case plural too, and their number under `total`. It gets what the controller
has found, unless the plural is one of the other names (`plan_list`): the later member of the answer
then takes the place of the records.
-/

namespace EntitySlice

open EntitySlice.Slice EntitySlice.Source EntitySlice.Text

/-- No camel-case plural begins with an underscore. -/
theorem Naming.pluralCamel_ne_prototypeKey {n : Naming} (hn : n.OfParts) :
    n.pluralCamel ≠ Record.prototypeKey := by
  intro h
  have hhead : (camelChars n.plural.toList).head? = some '_' := by
    rw [← String.toList_ofList (l := camelChars n.plural.toList)]
    show n.pluralCamel.toList.head? = _
    rw [h]
    decide
  rw [head?_camelChars hn.plural, Option.map_eq_some_iff] at hhead
  obtain ⟨c, hc, hlower⟩ := hhead
  have hne : c ≠ '_' := by simpa using List.find?_some hc
  exact hne ((asciiLower_cases (hn.plural c (List.mem_of_find?_eq_some hc))).2.2.mp hlower)

namespace Slice

variable {n : Naming}

/-! ## The answer -/

/-- The names in the answer to a request for a list that are the same for all entities. -/
def fixedNames : List String := ["total", "page", "limit"]

/-- What the controller has when it answers a request for a list. -/
structure Listing where
  items : Json.Value
  total : Json.Value
  page : Json.Value
  limit : Json.Value

/-- The variables with what the controller has. -/
def Listing.vars (l : Listing) : JsonVariables := fun x =>
  List.lookup x [("items", l.items), ("total", l.total), ("page", l.page), ("limit", l.limit)]

/-- The members of every answer. -/
def responseMembers : List Member := [.shorthand "data", .shorthand "message", .shorthand "status"]

/-- The answer with data, a message and a status. -/
def response? (data : Json.Value) (message : String) (status : Int) : Option Json.Value :=
  answer? (fun x => List.lookup x [("data", data), ("message", .string message),
    ("status", .number (.integer status))]) responseMembers

/-- The message of an answer with a list. -/
def listMessage (n : Naming) : String := n.plural ++ " fetched successfully"

/-- The answer to a request for a list. -/
def listResponse? (n : Naming) (l : Listing) : Option Json.Value := do
  response? (← answer? l.vars (listMembers n)) (listMessage n) 200

theorem name?_listMembers (h : isIdentifier n.pluralCamel = true) :
    (listMembers n).map Member.name? = (n.pluralCamel :: fixedNames).map some := by
  have hkey : readKey? n.pluralCamel.toList = some n.pluralCamel.toList := if_pos h
  simp [listMembers, Member.name?, hkey, fixedNames]

/-- The members of the answer to a request for a list. -/
def listData (n : Naming) (l : Listing) : Json.Members :=
  (((Json.Members.insert n.pluralCamel l.items []).insert "total" l.total).insert "page"
    l.page).insert "limit" l.limit

/-- The members of the answer are set one after the other. -/
theorem answer?_listMembers (h : isIdentifier n.pluralCamel = true)
    (hproto : n.pluralCamel ≠ Record.prototypeKey) (l : Listing) :
    answer? l.vars (listMembers n) = some (.object (listData n l)) := by
  have hitems : l.vars "items" = some l.items := rfl
  have htotal : l.vars "total" = some l.total := rfl
  have hpage : l.vars "page" = some l.page := rfl
  have hlimit : l.vars "limit" = some l.limit := rfl
  simp [answer?, listMembers, List.foldlM_cons, extendAnswer?_entry _ h hproto hitems,
    extendAnswer?_shorthand _ htotal, extendAnswer?_shorthand _ hpage,
    extendAnswer?_shorthand _ hlimit, listData]

/-- What stands under a name in the answer is what was set last. -/
theorem get?_listData (n : Naming) (l : Listing) :
    (listData n l).get? n.pluralCamel =
        (if n.pluralCamel ∈ fixedNames then l.vars n.pluralCamel else some l.items) ∧
      (listData n l).get? "total" = some l.total := by
  have htotal : (listData n l).get? "total" = some l.total := by
    rw [listData, Json.Members.get?_insert_of_ne (by decide),
      Json.Members.get?_insert_of_ne (by decide), Json.Members.get?_insert_self]
  refine ⟨?_, htotal⟩
  by_cases hlimit : n.pluralCamel = "limit"
  · rw [if_pos (by simp [hlimit, fixedNames]), hlimit, listData, Json.Members.get?_insert_self]
    rfl
  by_cases hpage : n.pluralCamel = "page"
  · rw [if_pos (by simp [hpage, fixedNames]), hpage, listData,
      Json.Members.get?_insert_of_ne (by decide), Json.Members.get?_insert_self]
    rfl
  by_cases hname : n.pluralCamel = "total"
  · rw [if_pos (by simp [hname, fixedNames]), hname, htotal]
    rfl
  · rw [if_neg (by simp [hlimit, hpage, hname, fixedNames]), listData,
      Json.Members.get?_insert_of_ne hlimit, Json.Members.get?_insert_of_ne hpage,
      Json.Members.get?_insert_of_ne hname, Json.Members.get?_insert_self]

theorem exists_response? (data : Json.Value) (message : String) (status : Int) :
    ∃ body, response? data message status = some body ∧ body.get? "data" = some data :=
  ⟨_, rfl, rfl⟩

/-! ## The page -/

/-- What the page reads of an answer. -/
def readResponse? (body : Json.Value) (expression : String) : Option Json.Value :=
  chain? (fun x => if x = "data" then some body else none) expression

/-- The expression for the number of records in the answer of the server. -/
def totalExpression : String := "data?.data?.total ?? 0"

theorem rowsExpression_eq (n : Naming) :
    rowsExpression n = "data?.data?." ++ n.pluralCamel ++ " ?? " ++ "[]" := by
  have hend : " ?? []" = " ?? " ++ "[]" := rfl
  rw [rowsExpression, hend, ← String.append_assoc]

theorem totalExpression_eq : totalExpression = "data?.data?." ++ "total" ++ " ?? " ++ "0" := by
  decide

/-- The page reads the members of the data. -/
theorem readResponse?_data {body data : Json.Value} (hbody : body.get? "data" = some data)
    {k : String} (hk : ∀ c ∈ k.toList, c ≠ ' ' ∧ c ≠ '.' ∧ c ≠ '?') (fallback : String) :
    readResponse? body ("data?.data?." ++ k ++ " ?? " ++ fallback) = data.get? k := by
  simp [readResponse?, chain?, chainNames_data hk, hbody]

/-! ## The modules -/

/-- The statement that asks the database for the records and for their number. -/
def listQuery (n : Naming) : List Line :=
  block "const [items, total] = await Promise.all(["
    (code
      [n.modelName
         ++ r".find(filter).sort({ updatedAt: -1, createdAt: -1 }).skip(skip).limit(limit),",
       n.modelName ++ ".countDocuments(filter),"])
    "]);"

/-- The statement that answers a request for a list. -/
def listReturn (n : Naming) : String :=
  returnResponse (object (listMembers n)) (listMessage n) "200"

theorem infix_nest {inner lines : List Line} (h : inner <:+: lines) : nest inner <:+: nest lines :=
  h.map _

/-- The lines in a constant stand in the file as they are. -/
theorem infix_lines_of_const {f : File} {exported : Bool} {name : String} {d : Definition}
    (hd : .declared (.const exported name d) ∈ f.items) {inner : List Line}
    (h : inner <:+: d.body) : nest inner <:+: f.lines := by
  refine (infix_nest h).trans (List.IsInfix.trans ?_ (File.infix_lines hd))
  exact ⟨[Line.code (Declaration.exportWord exported ++ "const " ++ name ++ d.first)],
    d.last?.toList.map Line.code, rfl⟩

theorem infix_listQuery (e : Entity) :
    nest (listQuery e.naming) <:+: (controller e).lines := by
  have hitem : .declared (listHandler e) ∈ (controller e).items :=
    List.mem_of_getElem? (i := 9) rfl
  exact infix_lines_of_const hitem (infix_paragraphs (List.mem_of_getElem? (i := 2) rfl))

theorem hasCode_listReturn (e : Entity) : HasCode (controller e).lines (listReturn e.naming) := by
  have hitem : .declared (listHandler e) ∈ (controller e).items :=
    List.mem_of_getElem? (i := 9) rfl
  have hne : listReturn e.naming ≠ "" := fun h => by simp [listReturn, returnResponse] at h
  have hcode : HasCode (code [listReturn e.naming]) (listReturn e.naming) :=
    .of_code List.mem_cons_self hne
  exact .of_const hitem (.paragraphs (List.mem_of_getElem? (i := 3) rfl) hcode)

/-- Answers are sent as JSON. -/
theorem hasCode_formatResponse (e : Entity) : HasCode (controller e).lines
    ("NextResponse.json(" ++ object responseMembers ++ r", { status });") := by
  have hitem : .declared formatResponse ∈ (controller e).items :=
    List.mem_of_getElem? (i := 5) rfl
  have htext : "NextResponse.json(" ++ object responseMembers ++ r", { status });" =
      r"NextResponse.json({ data, message, status }, { status });" := by
    decide
  rw [htext]
  exact .of_const hitem (.of_code List.mem_cons_self (by decide))

/-- The statements of the page that have to do with the answer. -/
def pageReads (n : Naming) : List String :=
  [r"const { data, isLoading, isError } = " ++ n.hook .list ++ r"({",
    "const items: " ++ n.interfaceName ++ "[] = " ++ rowsExpression n ++ ";",
    "const total: number = " ++ totalExpression ++ ";"]

theorem hasCode_pageReads (e : Entity) :
    ∀ s ∈ pageReads e.naming, HasCode (listPage e).lines s := by
  have hmain {lines : List Line} (hg : lines ∈ pageStatements e.naming ++ [pageMarkup e.naming])
      {s : String} (h : HasCode lines s) : HasCode (listPage e).lines s :=
    .of_main (f := listPage e) rfl hg h
  rw [pageReads, List.forall_mem_cons, List.forall_mem_cons, List.forall_mem_singleton]
  refine ⟨?_, ?_, ?_⟩
  · exact hmain (List.mem_of_getElem? (i := 2) rfl) ⟨0, List.mem_cons_self⟩
  · exact hmain (List.mem_of_getElem? (i := 3) rfl) (.of_code List.mem_cons_self (by simp))
  · refine hmain (List.mem_of_getElem? (i := 3) rfl) (.of_code ?_ (by decide))
    exact List.mem_of_getElem? (i := 1) rfl

end Slice

/-! ## Plans -/

/-- Whether the modules of a plan answer a request for a list and read the answer like this. -/
structure Plan.SendsLists (p : Plan) : Prop where
  /-- The controller has the records and their number from the database, and answers with them. -/
  controller : ∃ f ∈ files p.entity, f.part = .controller ∧
    nest (listQuery p.entity.naming) <:+: f.lines ∧ HasCode f.lines (listReturn p.entity.naming) ∧
    HasCode f.lines ("NextResponse.json(" ++ object responseMembers ++ r", { status });")
  /-- The page reads the records and their number. -/
  page : ∃ f ∈ files p.entity, f.part = .page ∧
    ∀ s ∈ pageReads p.entity.naming, HasCode f.lines s

theorem sendsLists (p : Plan) : p.SendsLists where
  controller := ⟨_, mem_files_of_singleFile? (p := .controller) rfl, rfl,
    infix_listQuery p.entity, hasCode_listReturn p.entity, hasCode_formatResponse p.entity⟩
  page := ⟨_, mem_files_of_singleFile? (p := .page) rfl, rfl, hasCode_pageReads p.entity⟩

/--
**The page gets the list**, unless the camel-case plural is one of the other names in the answer:
the names are then not different, and the page gets what has the same name for the records. It gets
the number of records in any case.
-/
theorem plan_list {keys : NamingKeys} {text : String} {p : Plan} (h : plan keys text = .ok p) :
    p.artifacts = (files p.entity).map SliceFile.artifact ∧ p.SendsLists ∧
      ∃ names : List String, (listMembers p.entity.naming).map Member.name? = names.map some ∧
        names.length = 4 ∧ (names.Nodup ↔ p.entity.naming.pluralCamel ∉ fixedNames) ∧
        ∀ l : Listing, ∃ body, listResponse? p.entity.naming l = some body ∧
          readResponse? body (rowsExpression p.entity.naming) =
            (if p.entity.naming.pluralCamel ∈ fixedNames
              then l.vars p.entity.naming.pluralCamel else some l.items) ∧
          readResponse? body totalExpression = some l.total := by
  have hfiles : p.artifacts = (files p.entity).map SliceFile.artifact := (plan_eq_ok_iff.mp h).2
  obtain ⟨s, n, ns, -, hresolve, he, -⟩ := exists_schema_of_prepare (plan_eq_ok_iff.mp h).1
  have hnaming : p.entity.naming = n := by rw [he]; rfl
  have hcamel : isIdentifier n.pluralCamel = true :=
    Naming.isIdentifier_pluralCamel (isIdentifier_of_resolve hresolve).1
      (isFolderName_of_resolve hresolve)
  have hproto := Naming.pluralCamel_ne_prototypeKey (ofParts_of_resolve hresolve)
  have hchars : ∀ c ∈ n.pluralCamel.toList, c ≠ ' ' ∧ c ≠ '.' ∧ c ≠ '?' := fun c hc =>
    forall_isIdentifierPart (p := fun c => c ≠ ' ' ∧ c ≠ '.' ∧ c ≠ '?') (by decide)
      (isIdentifierPart_of_mem hcamel hc)
  have hfixed : fixedNames.Nodup := by decide
  rw [hnaming]
  refine ⟨hfiles, sendsLists p, n.pluralCamel :: fixedNames, name?_listMembers hcamel, rfl, ?_, ?_⟩
  · rw [List.nodup_cons]
    exact and_iff_left hfixed
  · intro l
    obtain ⟨body, hbody, hdata⟩ := exists_response? (.object (listData n l)) (listMessage n) 200
    obtain ⟨hrows, htotal⟩ := get?_listData n l
    refine ⟨body, ?_, ?_, ?_⟩
    · rw [listResponse?, answer?_listMembers hcamel hproto]
      exact hbody
    · rw [rowsExpression_eq]
      exact (readResponse?_data hdata hchars "[]").trans hrows
    · rw [totalExpression_eq]
      exact (readResponse?_data hdata (k := "total") (by simp) "0").trans htotal

/-- A schema whose plural is the name for the number of records. -/
def totalSchema : String :=
  "\x7b\"namingConvention\":\x7b\"Users_1_000___\":\"Total\",\"users_2_000___\":\"total\","
    ++ "\"User_3_000___\":\"Post\"\x7d\x7d"

theorem plan_totalSchema :
    ∃ p, plan {} totalSchema = .ok p ∧ p.entity.naming.pluralCamel = "total" := by
  have hnaming : ∃ p, plan {} totalSchema = .ok p ∧
      p.entity.naming = ⟨"Total", "Post", false⟩ := by
    apply exists_plan_of_chars (fun e => e.naming)
    · unfold totalSchema
      apply toList_append_eq String.toList_ofList
      exact String.toList_ofList
    · decide +kernel
  obtain ⟨p, hp, hnaming⟩ := hnaming
  refine ⟨p, hp, ?_⟩
  rw [hnaming]
  decide +kernel

/-- A list of one record, of seven that there are. -/
def oneOfSeven : Listing where
  items := .array [.object []]
  total := .number (.integer 7)
  page := .number (.integer 1)
  limit := .number (.integer 1)

/-- The page gets the number of records for the records. -/
theorem plan_list_totalSchema :
    ∃ p body, plan {} totalSchema = .ok p ∧
      listResponse? p.entity.naming oneOfSeven = some body ∧
      readResponse? body (rowsExpression p.entity.naming) = some (.number (.integer 7)) ∧
      readResponse? body totalExpression = some (.number (.integer 7)) := by
  obtain ⟨p, hp, hcamel⟩ := plan_totalSchema
  obtain ⟨-, -, -, -, -, -, hreads⟩ := plan_list hp
  obtain ⟨body, hbody, hrows, htotal⟩ := hreads oneOfSeven
  refine ⟨p, body, hp, hbody, ?_, htotal⟩
  rw [hrows, hcamel]
  rfl

/-- **Not every page gets the list.** -/
theorem exists_list_lost :
    ¬∀ (keys : NamingKeys) (text : String) (p : Plan), plan keys text = .ok p →
      ((listMembers p.entity.naming).map Member.name?).Nodup ∧
        ∀ l : Listing, ∃ body, listResponse? p.entity.naming l = some body ∧
          readResponse? body (rowsExpression p.entity.naming) = some l.items ∧
          readResponse? body totalExpression = some l.total := by
  intro hall
  obtain ⟨p, hp, hcamel⟩ := plan_totalSchema
  have hnames := (hall {} totalSchema p hp).1
  rw [listMembers, hcamel] at hnames
  exact absurd hnames (by decide)

end EntitySlice
