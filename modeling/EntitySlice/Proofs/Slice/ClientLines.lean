import EntitySlice.Proofs.Identifiers
import EntitySlice.Proofs.Slice.ServerLines
import EntitySlice.Slice.Client.QueryClient

/-!
# Lines of the query client

Each endpoint of the query client is defined on the first line of a block, with its name and its
kind. Whatever the names of the entity are, no other line of the module looks like that, so the
endpoints are read from its text (`definedEndpoints_queryClient`). The text ends with the list of
the hooks that the module exports (`textLines_queryClient`).
-/

namespace EntitySlice.Slice

open EntitySlice.Source EntitySlice.Text

/-! ## Endpoints -/

/-- What an endpoint of the client library can be. -/
inductive EndpointKind
  | query | mutation
  deriving DecidableEq, Repr

namespace EndpointKind

/-- The method that makes an endpoint of the kind. -/
def method : EndpointKind → String
  | query => "query"
  | mutation => "mutation"

/-- What the names of the hooks of the kind end with. -/
def ending : EndpointKind → String
  | query => "Query"
  | mutation => "Mutation"

end EndpointKind

/-- An endpoint as the client library gets to know it: its name and its kind. -/
abbrev DefinedEndpoint := String × EndpointKind

/-- The hook that the client library derives for an endpoint. -/
def derivedHook (d : DefinedEndpoint) : String :=
  "use" ++ capitalizeAscii d.1 ++ d.2.ending

/-- The kind of the method that is called first; what follows on the line is passed over. -/
def readKind? (cs : List Char) : Option (EndpointKind × List Char) :=
  ([.query, .mutation].find? fun k => (k.method ++ "(").toList.isPrefixOf cs).map (·, [])

/-- The endpoint that a line defines. -/
def readEndpoint? : String → Option DefinedEndpoint :=
  readStatement? ": builder." readKind? ""

/-- The endpoints that are defined in a text, one after the other. -/
def definedEndpoints (text : String) : List DefinedEndpoint :=
  (textLines text).filterMap readEndpoint?

/-! ## Endpoints of operations -/

/-- The kind of an operation in the client library. -/
def operationKind (o : Operation) : EndpointKind :=
  if o.isQuery then .query else .mutation

/-- An operation as the query client defines it. -/
def operationEndpoint (n : Naming) (o : Operation) : DefinedEndpoint :=
  (n.operationName o, operationKind o)

theorem capitalizeAscii_append {s : String} (hs : s.toList ≠ []) (t : String) :
    capitalizeAscii (s ++ t) = capitalizeAscii s ++ t := by
  obtain ⟨c, cs, hcs⟩ := List.exists_cons_of_ne_nil hs
  have happend : (s ++ t).toList = c :: (cs ++ t.toList) := by
    rw [String.toList_append, hcs]
    rfl
  rw [capitalizeAscii, capitalizeAscii, happend, hcs, ← String.toList_inj]
  simp

/-- **The hook of an operation is the one that is derived for it.** -/
theorem hook_eq_derivedHook (n : Naming) (o : Operation) :
    n.hook o = derivedHook (operationEndpoint n o) := by
  have hverb : o.verb.toList ≠ [] := by cases o <;> decide
  have hending : capitalizeAscii o.builder = (operationKind o).ending := by cases o <;> decide
  have hname : n.operationName o = o.verb ++ (n.plural ++ o.ending) := String.append_assoc
  have hderived : derivedHook (operationEndpoint n o) =
      "use" ++ capitalizeAscii (n.operationName o) ++ (operationKind o).ending := rfl
  rw [hderived, hname, capitalizeAscii_append hverb, ← hending, Naming.hook, Naming.endpoint]
  simp only [String.append_assoc]

theorem readKind?_builder (o : Operation) (rest : String) :
    readKind? (o.builder ++ "(" ++ rest).toList = some (operationKind o, []) := by
  rw [String.toList_append]
  cases o <;> rfl

/-- The first line of the definition of an operation. -/
def endpointStart (n : Naming) (o : Operation) : String :=
  n.operationName o ++ ": builder." ++ o.builder ++ r"({"

section

variable {n : Naming} (h : n.OfParts)

include h

theorem isIdentifierPart_operationName (o : Operation) :
    ∀ c ∈ (n.operationName o).toList, isIdentifierPart c = true := by
  rw [Naming.operationName, String.toList_append, String.toList_append, List.forall_mem_append,
    List.forall_mem_append]
  exact ⟨⟨fun _ hc => isIdentifierPart_of_mem (isIdentifier_verb o).1 hc, h.plural⟩,
    (isIdentifierPart_ending o).1⟩

theorem isIdentifierPart_hook (o : Operation) :
    ∀ c ∈ (n.hook o).toList, isIdentifierPart c = true := by
  have hending := (isIdentifierPart_ending o).2
  rw [Naming.hook, Naming.endpoint, String.toList_append, String.toList_append,
    String.toList_append, List.forall_mem_append, List.forall_mem_append, List.forall_mem_append]
  exact ⟨⟨⟨fun _ hc => isIdentifierPart_of_mem (isIdentifier_verb o).2 hc, h.plural⟩,
    (isIdentifierPart_ending o).1⟩, hending⟩

/-- **The name and the kind of an endpoint are read back.** -/
theorem readEndpoint?_endpointStart (o : Operation) :
    readEndpoint? (endpointStart n o) = some (operationEndpoint n o) := by
  have hstart : endpointStart n o =
      n.operationName o ++ ": builder." ++ (o.builder ++ "(" ++ "\x7b") := by
    simp [endpointStart, ← String.toList_inj]
  rw [hstart]
  exact readStatement?_of_read (readKind?_builder o "\x7b") (isIdentifierPart_operationName h o)
    (c := ':') rfl (by decide) (by decide)

theorem oneLine_endpointStart (o : Operation) : OneLine (endpointStart n o) := by
  have hbuilder : OneLine o.builder := by cases o <;> exact .ofList (by decide)
  have hname : OneLine (n.operationName o) :=
    .of_isIdentifierPart (isIdentifierPart_operationName h o)
  exact ((hname.append (.ofList (by decide))).append hbuilder).append (by decide)

end

/-! ## Other lines -/

/-- What stands between the name and the kind of an endpoint. -/
def endpointMark : List Char := [':', ' ', 'b', 'u', 'i', 'l', 'd', 'e', 'r', '.']

/-- Code on one line that defines no endpoint, whatever more of it there is. -/
structure IsOther (s : String) : Prop where
  oneLine : OneLine s
  start : s.toList.head? ≠ some ' '
  apart : ¬endpointMark <+: behindWord s.toList ∧ ¬behindWord s.toList <+: endpointMark

namespace IsOther

theorem ofList {cs : List Char} (h : '\n' ∉ cs ∧ cs.head? ≠ some ' ' ∧
    ¬endpointMark <+: behindWord cs ∧ ¬behindWord cs <+: endpointMark) :
    IsOther (String.ofList cs) := by
  refine ⟨.ofList h.1, ?_, ?_⟩ <;> rw [String.toList_ofList]
  · exact h.2.1
  · exact h.2.2

/-- A word with code behind it that is no beginning of a definition. -/
theorem ofWord {word s : String} (hword : ∀ c ∈ word.toList, isIdentifierPart c = true)
    (hs : OneLine s) {c : Char} {cs : List Char} (hlist : s.toList = c :: cs)
    (hc : isIdentifierPart c = false ∧ c ≠ ' ')
    (hmark : ¬endpointMark <+: c :: cs ∧ ¬c :: cs <+: endpointMark) : IsOther (word ++ s) := by
  have happend : (word ++ s).toList = word.toList ++ c :: cs := by simp [hlist]
  refine ⟨(OneLine.of_isIdentifierPart hword).append hs, ?_, ?_⟩ <;> rw [happend]
  · exact head?_append_ne_blank hword hc.2 _
  · rwa [behindWord, (takeWhile_isIdentifierPart hword hc.1 _).2]

/-- A key is other code, unless its value begins like the definition of an endpoint. -/
theorem ofKey {key value : String} (hkey : ∀ c ∈ key.toList, isIdentifierPart c = true)
    (hvalue : OneLine value) {c : Char} (hhead : value.toList.head? = some c) (hc : c ≠ 'b') :
    IsOther (key ++ ": " ++ value) := by
  obtain ⟨rest, hrest⟩ := List.head?_eq_some_iff.mp hhead
  have hlist : (": " ++ value).toList = ':' :: ' ' :: c :: rest := by simp [hrest]
  rw [String.append_assoc]
  exact ofWord hkey (.append (.ofList (by decide)) hvalue) hlist (by decide)
    (by simp [endpointMark, hc, hc.symm])

variable {s t : String} (h : IsOther s)

include h

/-- What stands further back on the line does not matter. -/
theorem append (ht : OneLine t) : IsOther (s ++ t) := by
  obtain ⟨hno, hno'⟩ := h.apart
  have hne : behindWord s.toList ≠ [] := fun hnil => hno' (hnil ▸ List.nil_prefix)
  have hbehind : behindWord (s ++ t).toList = behindWord s.toList ++ t.toList := by
    rw [String.toList_append, behindWord_append hne]
  refine ⟨h.oneLine.append ht, ?_, ?_⟩
  · have hchars : s.toList ≠ [] := fun hnil => hne (by rw [hnil]; rfl)
    rw [String.toList_append, List.head?_append_of_ne_nil _ hchars]
    exact h.start
  · rw [hbehind]
    constructor
    · -- Of two beginnings of one text one begins with the other.
      intro hmark
      exact (List.prefix_or_prefix_of_prefix hmark (List.prefix_append _ _)).elim hno hno'
    · exact fun hmark => hno' ((List.prefix_append _ _).trans hmark)

end IsOther

/-- Code on one line that defines no endpoint. -/
def DefinesNothing (c : Source.Content) : Prop :=
  OneLine c.text ∧ readEndpoint? c.text = none

instance : DecidablePred DefinesNothing :=
  fun _ => inferInstanceAs (Decidable (_ ∧ _))

theorem IsOther.definesNothing {s : String} (h : IsOther s) : DefinesNothing (.code s) :=
  ⟨h.oneLine, readStatement?_of_not_prefix h.start h.apart.1⟩

theorem IsPlain.definesNothing {c : Source.Content} (h : IsPlain c) : DefinesNothing c := by
  obtain rfl | h := h
  · exact ⟨by decide, rfl⟩
  · exact ⟨h.oneLine, readStatement?_of_not_prefix h.start (h.not_prefix (by decide) (by decide))⟩

theorem definesNothing_blank : DefinesNothing .blank := IsPlain.definesNothing (.inl rfl)

/-- A line of other code. -/
theorem IsOther.onLine {s : String} (h : IsOther s) : OnLines DefinesNothing [Line.code s] :=
  .single h.definesNothing

/-- A block that begins and ends with other code. -/
theorem IsOther.surrounds {first last : String} {inner lines : List Line} (hfirst : IsOther first)
    (h : Surrounds DefinesNothing inner lines) (hlast : IsOther last) :
    Surrounds DefinesNothing (nest inner) (block first lines last) :=
  .block hfirst.definesNothing h hlast.definesNothing

/-! ## Definitions -/

/-- The definitions of all operations as they are written. -/
def definitionLines (n : Naming) : List Line :=
  (endpointDefinitions n).flatMap (·.lines n)

/-- The line with the tags of an operation. -/
def tagsLine (d : EndpointDefinition) : String :=
  tagsKey d.operation ++ ": " ++ d.tags ++ ","

theorem lines_definition (n : Naming) (d : EndpointDefinition) : d.lines n =
    block (endpointStart n d.operation) (d.query ++ [Line.code (tagsLine d)]) r"}),"  := by
  have hne : tagsLine d ≠ "" := by simp [tagsLine]
  have hcode : code [tagsLine d] = [Line.code (tagsLine d)] := by simp [code, hne]
  rw [← hcode]
  rfl

theorem onLines_queryLine {argument url method body : String} (hargument : OneLine argument)
    (hurl : OneLine url) (hmethod : OneLine method) (hbody : OneLine body) :
    OnLines DefinesNothing [queryLine argument url method body] :=
  IsOther.onLine (((((((((IsOther.ofList (by decide)).append hargument).append
    (.ofList (by decide))).append hurl).append (.ofList (by decide))).append hmethod).append
      (.ofList (by decide))).append hbody).append (.ofList (by decide)))

section

variable {n : Naming} (h : n.OfParts)

include h

theorem oneLine_tagType : OneLine n.tagType := OneLine.append (by decide) h.oneLine_plural

theorem oneLine_listTags : OneLine (listTags n) :=
  (OneLine.append (.ofList (by decide)) (oneLine_tagType h)).append (.ofList (by decide))

/-- The lines inside a definition define no endpoint. -/
theorem onLines_definition : ∀ d ∈ endpointDefinitions n,
    OnLines DefinesNothing (d.query ++ [Line.code (tagsLine d)]) := by
  have hname : OneLine n.interfaceName := h.oneLine_interfaceName
  have htags {d : EndpointDefinition} (hone : OneLine d.tags) {c : Char}
      (hhead : d.tags.toList.head? = some c) (hc : c ≠ 'b') :
      OnLines DefinesNothing [Line.code (tagsLine d)] := by
    have hkey : ∀ c ∈ (tagsKey d.operation).toList, isIdentifierPart c = true := by
      cases d.operation <;> exact List.all_eq_true.mp (by decide)
    exact ((IsOther.ofKey hkey hone hhead hc).append (.ofList (by decide))).onLine
  have hlist {o : Operation} {query : List Line} :
      OnLines DefinesNothing [Line.code (tagsLine ⟨o, query, listTags n⟩)] :=
    htags (oneLine_listTags h) (c := '[') (by simp [listTags]) (by decide)
  have hcode {s : String} (hs : IsOther s) : OnLines DefinesNothing (code [s]) :=
    .code definesNothing_blank (List.forall_mem_singleton.mpr hs.definesNothing)
  have htwo {first second : String} (hfirst : IsOther first) (hsecond : IsOther second) :
      OnLines DefinesNothing (Line.code first :: nest (code [second])) :=
    hfirst.onLine.append (hcode hsecond).nest
  simp only [endpointDefinitions, List.forall_mem_cons]
  refine ⟨?_, ?_, ?_, ?_, ?_, ?_, ?_, ?_, List.forall_mem_nil _⟩
  · exact (htwo (.ofList (by decide)) (.ofList (by decide))).append hlist
  · have hone : OneLine (r"(_result, _error, id) => [{ type: '" ++ n.tagType ++ r"', id }]") :=
      (OneLine.append (.ofList (by decide)) (oneLine_tagType h)).append (.ofList (by decide))
    exact (hcode (.ofList (by decide))).append (htags hone (c := '(') (by simp) (by decide))
  · have hargument : OneLine ("body: " ++ n.interfaceName) := .append (.ofList (by decide)) hname
    exact (onLines_queryLine hargument (by decide) (by decide) (by decide)).append hlist
  · have hargument : OneLine (updateArgument.source ++ ": Partial<" ++ n.interfaceName
        ++ r"> & { id: string }") :=
      ((OneLine.append (by decide) (.ofList (by decide))).append hname).append (.ofList (by decide))
    exact (onLines_queryLine hargument (by decide) (by decide) (by decide)).append hlist
  · exact (onLines_queryLine (.ofList (by decide)) (by decide) (by decide)
      (.ofList (by decide))).append hlist
  · have hargument : OneLine (r"updates: { id: string; updateData: Partial<" ++ n.interfaceName
        ++ r"> }[]") :=
      (OneLine.append (.ofList (by decide)) hname).append (by decide)
    exact (onLines_queryLine hargument (by decide) (by decide) (by decide)).append hlist
  · exact (onLines_queryLine (.ofList (by decide)) (.ofList (by decide)) (by decide)
      (.ofList (by decide))).append hlist
  · exact (htwo (.ofList (by decide)) (.ofList (by decide))).append hlist

/-- **One endpoint is read for each operation.** -/
theorem readOn_definitionLines :
    readOn (fun c => readEndpoint? c.text) (definitionLines n) =
      Operation.all.map (operationEndpoint n) := by
  have hone : ∀ d ∈ endpointDefinitions n, readOn (fun c => readEndpoint? c.text) (d.lines n) =
      [operationEndpoint n d.operation] := by
    intro d hd
    have hinside := ((onLines_definition h d hd).imp fun _ hc => hc.2).readOn_eq_nil
    have hlast : readEndpoint? (Source.Content.code r"}),").text = none := rfl
    have hfirst : readEndpoint? (Source.Content.code (endpointStart n d.operation)).text =
        some (operationEndpoint n d.operation) :=
      readEndpoint?_endpointStart h d.operation
    rw [lines_definition, readOn_block, hinside, hfirst, hlast]
    rfl
  have hflat : readOn (fun c => readEndpoint? c.text) (definitionLines n) =
      (endpointDefinitions n).flatMap fun d => readOn (fun c => readEndpoint? c.text) (d.lines n) :=
    List.filterMap_flatMap
  rw [hflat, List.flatMap_congr hone]
  rfl

theorem onLines_definitionLines :
    OnLines (fun c => OneLine c.text) (definitionLines n) := by
  rw [OnLines, definitionLines, List.map_flatMap, List.forall_mem_flatMap]
  intro d hd
  rw [lines_definition]
  exact OnLines.block (oneLine_endpointStart h d.operation)
    ((onLines_definition h d hd).imp fun _ hc => hc.1) (.ofList (by decide))

end

/-! ## The module -/

/-- What stands in the query client before the definitions and the hooks. -/
def clientGroups (e : Entity) : List (List Line) :=
  ((queryClient e).sections.take 3).map fun s => s.flatMap Item.lines

/-- The lines that export the hooks. -/
def hookLines (n : Naming) : List Line :=
  (Declaration.members (Operation.all.map n.hook) n.apiSlice).lines

theorem lines_queryClient (e : Entity) : (queryClient e).lines =
    paragraphs (clientGroups e ++ (apiSliceConst e).lines :: [hookLines e.naming]) := by
  simp [File.lines, clientGroups, queryClient, hookLines, Item.lines]

section

variable {e : Entity} (h : e.naming.OfParts)

include h

theorem oneLine_requestAddress : OneLine e.requestAddress := by
  have hroot : OneLine e.root.name := by cases e.root <;> decide
  have hfolder : OneLine e.naming.folder := h.oneLine_pluralLower
  exact ((((OneLine.append (by decide) hroot).append (by decide)).append hfolder).append
    (by decide)).append (by decide)

theorem onLines_clientGroups : ∀ g ∈ clientGroups e, OnLines DefinesNothing g := by
  have hgroups : clientGroups e =
      [(Item.comment ("Auto-generated query client for " ++ e.naming.plural)).lines ++
        ((Import.named ["createApi", "fetchBaseQuery"] "@reduxjs/toolkit/query/react").lines ++
          (Import.named [e.naming.interfaceName] "../store/data/data").lines),
        listParameters.lines, toSearch.lines] := by
    simp [clientGroups, queryClient, Item.lines]
  have hcomment : OnLines DefinesNothing
      (Item.comment ("Auto-generated query client for " ++ e.naming.plural)).lines :=
    ((IsOther.ofList (by decide)).append (.append (.ofList (by decide)) h.oneLine_plural)).onLine
  have hclause : OneLine (Import.named [e.naming.interfaceName] "../store/data/data").clause :=
    .intercalate (by decide) (List.forall_mem_singleton.mpr
      (.inBraces (List.forall_mem_singleton.mpr h.oneLine_interfaceName)))
  have hlibrary : OnLines IsPlain
      (Import.named ["createApi", "fetchBaseQuery"] "@reduxjs/toolkit/query/react").lines :=
    onLines_import rfl (by decide) (.ofList (by decide))
  have hsource : OneLine "../store/data/data" := by decide
  have hdata : OnLines IsPlain (Import.named [e.naming.interfaceName] "../store/data/data").lines :=
    onLines_import rfl hclause hsource
  -- The other groups are the same for all entities.
  have hfixed : ∀ d ∈ [listParameters, toSearch], ∀ c ∈ d.lines.map Line.content,
      DefinesNothing c := by
    decide +kernel
  rw [hgroups]
  simp only [List.forall_mem_cons]
  refine ⟨hcomment.append (.append ?_ ?_), hfixed _ (by simp), hfixed _ (by simp),
    List.forall_mem_nil _⟩
  · exact hlibrary.imp fun _ hc => hc.definesNothing
  · exact hdata.imp fun _ hc => hc.definesNothing

theorem oneLine_apiSlice : OneLine e.naming.apiSlice := h.oneLine_pluralCamel.append (by decide)

theorem onLines_hookLines : OnLines DefinesNothing (hookLines e.naming) := by
  refine .block (IsOther.definesNothing (.ofList (by decide))) ?_ (IsOther.definesNothing
    (((IsOther.ofList (by decide)).append (oneLine_apiSlice h)).append (by decide)))
  rw [OnLines, List.map_map, List.map_map, List.forall_mem_map]
  intro o _
  exact (IsOther.ofWord (isIdentifierPart_hook h o) (s := ",") (by decide) rfl (by decide)
    (by decide)).definesNothing

/-- The definitions stand between lines that define no endpoint. -/
theorem surrounds_definitionLines :
    Surrounds DefinesNothing (nest (nest (definitionLines e.naming))) (queryClient e).lines := by
  have hconst : (apiSliceConst e).lines = block ("export const " ++ e.naming.apiSlice
      ++ r" = createApi({") ([Line.code ("reducerPath: '" ++ e.naming.apiSlice ++ "',"),
        baseUrlLine e, Line.code ("tagTypes: ['" ++ e.naming.tagType ++ "'],")] ++
          block r"endpoints: (builder) => ({" (definitionLines e.naming) r"}),") r"});" := rfl
  rw [lines_queryClient]
  refine .paragraphs _ _ definesNothing_blank (onLines_clientGroups h) ?_
    (List.forall_mem_singleton.mpr (onLines_hookLines h))
  rw [hconst]
  have hstart : IsOther ("export const " ++ e.naming.apiSlice ++ r" = createApi({") :=
    ((IsOther.ofList (by decide)).append (oneLine_apiSlice h)).append (.ofList (by decide))
  have hpath : IsOther ("reducerPath: '" ++ e.naming.apiSlice ++ "',") :=
    ((IsOther.ofList (by decide)).append (oneLine_apiSlice h)).append (by decide)
  have hurl : IsOther (r"baseQuery: fetchBaseQuery({ baseUrl: '" ++ e.requestAddress ++ r"' }),") :=
    ((IsOther.ofList (by decide)).append (oneLine_requestAddress h)).append (by decide)
  have htypes : IsOther ("tagTypes: ['" ++ e.naming.tagType ++ "'],") :=
    ((IsOther.ofList (by decide)).append (oneLine_tagType h)).append (by decide)
  exact hstart.surrounds (.append_left (hpath.onLine.append (hurl.onLine.append htypes.onLine))
    (IsOther.surrounds (.ofList (by decide)) .refl (.ofList (by decide)))) (.ofList (by decide))

theorem onLines_queryClient : OnLines (fun c => OneLine c.text) (queryClient e).lines :=
  ((surrounds_definitionLines h).imp fun _ hc => hc.1).onLines
    (onLines_definitionLines h).nest.nest

/-- **The query client defines one endpoint for each operation**, and its text no other. -/
theorem definedEndpoints_queryClient : definedEndpoints (queryClient e).text =
    Operation.all.map (operationEndpoint e.naming) := by
  have hread := ((surrounds_definitionLines h).imp fun _ hc => hc.2).readOn_eq
  refine (filterMap_readStatement?_textLines (onLines_queryClient h) rfl).trans (hread.trans ?_)
  rw [readOn_nest, readOn_nest]
  exact readOn_definitionLines h

/-- **The text ends with the list of the hooks**, in the order of the operations. -/
theorem textLines_queryClient : ∃ before, textLines (queryClient e).text =
    before ++ exportTexts (Operation.all.map e.naming.hook) e.naming.apiSlice ++ [""] := by
  obtain ⟨before, hbefore⟩ :=
    suffix_paragraphs (clientGroups e ++ [(apiSliceConst e).lines]) (hookLines e.naming)
  have hlines : (queryClient e).lines = before ++ hookLines e.naming := by
    rw [hbefore, lines_queryClient, List.append_assoc]
    rfl
  refine ⟨before.map Line.text, ?_⟩
  rw [textLines_text (onLines_queryClient h), hlines, List.map_append, hookLines, map_text_members]

end

end EntitySlice.Slice
