import EntitySlice.Proofs.Naming
import EntitySlice.Proofs.Source.Elements
import EntitySlice.Proofs.Source.Sequences
import EntitySlice.Slice.Server.Controller

/-!
# Lines of the controller

Two statements of the controller go through fields: the stage that groups the records for a summary
and the terms of a search. All other lines are ordinary code (`IsOrdinary`): whatever the names of
the entity are, none of them begins the stage or gives terms. So the stage stands between its ends
in the text of the module (`linesBetween_group`), and the terms are read from one line or from none
(`filterMap_readTerms?_controller`).
-/

namespace EntitySlice.Slice

open EntitySlice.Source

/-! ## Ordinary code -/

/-- How code goes on behind its first word if it is a key, makes an index or gives search terms. -/
def markStarts : List (List Char) := [[], ['.'], [':'], ['.', '$'], ['.', 'i'], [':', ' ']]

/-- Code on one line that is no member and neither makes an index nor gives search terms. -/
structure IsOrdinary (s : String) : Prop where
  oneLine : OneLine s
  start : s.toList.head? ≠ some ' '
  next : (behindWord s.toList).take 2 ∉ markStarts

namespace IsOrdinary

/-- The characters of a text decide what it is; a text is slow to take apart. -/
theorem ofList {cs : List Char} (h : '\n' ∉ cs ∧ cs.head? ≠ some ' ' ∧
    (behindWord cs).take 2 ∉ markStarts) :
    IsOrdinary (String.ofList cs) := by
  refine ⟨.ofList h.1, ?_, ?_⟩ <;> rw [String.toList_ofList]
  · exact h.2.1
  · exact h.2.2

/-- A member of a variable is ordinary, unless its name begins like one of those. -/
theorem ofMember {x : String} (hx : ∀ c ∈ x.toList, isIdentifierPart c = true) {c : Char}
    {cs : List Char} (hline : '\n' ∉ '.' :: c :: cs) (hc : c ≠ '$' ∧ c ≠ 'i') :
    IsOrdinary (x ++ String.ofList ('.' :: c :: cs)) := by
  have hlist : (x ++ String.ofList ('.' :: c :: cs)).toList = x.toList ++ '.' :: c :: cs := by simp
  refine ⟨OneLine.append (.of_isIdentifierPart hx) (.ofList hline), ?_, ?_⟩ <;> rw [hlist]
  · exact head?_append_ne_blank hx (by decide) _
  · rw [behindWord, (takeWhile_isIdentifierPart hx (by decide) _).2]
    simpa [markStarts] using hc

variable {s t : String} (h : IsOrdinary s)

include h

/-- What stands further back on the line does not matter. -/
theorem append (ht : OneLine t) : IsOrdinary (s ++ t) := by
  have htake := h.next
  obtain ⟨c, cs, hbehind⟩ : ∃ c cs, behindWord s.toList = c :: cs :=
    List.exists_cons_of_ne_nil fun hnil => by simp [hnil, markStarts] at htake
  have hword : behindWord (s ++ t).toList = c :: (cs ++ t.toList) := by
    rw [String.toList_append, behindWord_append (by simp [hbehind]), hbehind, List.cons_append]
  refine ⟨h.oneLine.append ht, ?_, ?_⟩
  · cases hchars : s.toList with
    | nil => simp [hchars, behindWord] at hbehind
    | cons d ds => simpa [hchars] using h.start
  · rw [hword]
    rw [hbehind] at htake
    cases cs with
    | cons d ds => exact htake
    | nil =>
      simp only [List.take_succ_cons, List.take_nil, markStarts, List.mem_cons] at htake ⊢
      simp_all

theorem not_prefix {mark : List Char} (hlength : 2 ≤ mark.length)
    (hmark : mark.take 2 ∈ markStarts) : ¬mark <+: behindWord s.toList := by
  rintro ⟨rest, hrest⟩
  refine h.next ?_
  rwa [← hrest, List.take_append_of_le_length hlength]

/-- No stage begins like ordinary code. -/
theorem ne_stage : s.toList.dropWhile (· = ' ') ≠ "$group: \x7b".toList := by
  intro he
  refine h.next ?_
  rw [← dropWhile_of_head?_ne_blank h.start, he]
  decide

end IsOrdinary

/-- An empty line or ordinary code. -/
def IsPlain (c : Source.Content) : Prop :=
  c = .blank ∨ IsOrdinary c.text

/-! ## Functions of the controller -/

theorem oneLine_respond {data message status : String} (hdata : OneLine data)
    (hstatus : OneLine status) : OneLine (respond data message status) := by
  have hcall : OneLine ("formatResponse(" ++ data ++ ", ") :=
    (OneLine.append (.ofList (by decide)) hdata).append (.ofList (by decide))
  exact (((hcall.append (oneLine_literal message)).append (by decide)).append hstatus).append
    (by decide)

theorem isOrdinary_returnResponse {data : String} (hdata : OneLine data) (message : String)
    {status : String} (hstatus : OneLine status) :
    IsOrdinary (returnResponse data message status) :=
  (IsOrdinary.append (.ofList (by decide)) (oneLine_respond hdata hstatus)).append (by decide)

theorem isOrdinary_rejectIf {condition : String} (hcondition : OneLine condition) (message : String)
    {status : String} (hstatus : OneLine status) :
    IsOrdinary (rejectIf condition message status) := by
  have hstart : IsOrdinary ("if (" ++ condition ++ ") return ") :=
    (IsOrdinary.append (.ofList (by decide)) hcondition).append (.ofList (by decide))
  exact (hstart.append (oneLine_respond (.ofList (by decide)) hstatus)).append (by decide)

theorem onLines_code {texts : List String} (h : ∀ s ∈ texts, IsOrdinary s) :
    OnLines IsPlain (code texts) :=
  .code (.inl rfl) fun s hs => .inr (h s hs)

theorem onLines_block {first last : String} {lines : List Line} (hfirst : IsOrdinary first)
    (h : OnLines IsPlain lines) (hlast : IsOrdinary last) :
    OnLines IsPlain (block first lines last) :=
  .block (.inr hfirst) h (.inr hlast)

theorem onLines_const {P : Source.Content → Prop} (hP : ∀ s, IsOrdinary s → P (.code s))
    {exported : Bool} {name : String} {d : Definition} (hname : OneLine name)
    (hfirst : OneLine d.first) (hbody : OnLines P d.body) (hlast : ∀ s ∈ d.last?, IsOrdinary s) :
    OnLines P (Declaration.const exported name d).lines := by
  have hword : IsOrdinary (Declaration.exportWord exported ++ "const ") := by
    have hnone : Declaration.exportWord false ++ "const " = "const " := rfl
    cases exported with
    | false =>
      rw [hnone]
      exact .ofList (by decide)
    | true => exact .append (.ofList (by decide)) (.ofList (by decide))
  refine ((OnLines.single (l := Line.code _) ?_).append hbody.nest).append ?_
  · exact hP _ ((hword.append hname).append hfirst)
  · rw [OnLines, List.map_map, List.forall_mem_map]
    exact fun s hs => hP s (hlast s (Option.mem_toList.mp hs))

/-- The functions that the operations share. -/
theorem onLines_shared : ∀ d ∈ [handlerType, formatResponse, withDatabase, escapeRegex,
    dateRangeFilter], OnLines IsPlain d.lines := by
  have hP (s : String) (hs : IsOrdinary s) : IsPlain (.code s) := .inr hs
  have hclosing : ∀ s ∈ some r"};", IsOrdinary s := by
    rintro s ⟨⟩
    exact .ofList (by decide)
  simp only [List.forall_mem_cons]
  refine ⟨?_, ?_, ?_, ?_, ?_, fun _ hd => absurd hd List.not_mem_nil⟩
  · have hstart : Declaration.exportWord false ++ "type " = "type " := rfl
    have hname : IsOrdinary ("type " ++ "Handler" ++ " = ") :=
      (IsOrdinary.append (.ofList (by decide)) (.ofList (by decide))).append (by decide)
    rw [handlerType, Declaration.lines, hstart]
    exact .single (.inr ((hname.append (.ofList (by decide))).append (by decide)))
  · refine onLines_const hP (.ofList (by decide)) (.ofList (by decide)) (onLines_code ?_) (by simp)
    exact List.forall_mem_singleton.mpr (.ofList (by decide))
  · have htry : OnLines IsPlain (block r"try {" (code ["await connectDB();",
        "return await handler(req);"]) r"} catch (error: unknown) {") := by
      refine onLines_block (.ofList (by decide)) (onLines_code ?_) (.ofList (by decide))
      simp only [List.forall_mem_cons]
      exact ⟨.ofList (by decide), .ofList (by decide), List.forall_mem_nil _⟩
    have hduplicate : OnLines IsPlain (block r"if (err.code === 11000) {"
        (code [returnResponse "null" "Duplicate key error" "400"]) r"}") := by
      refine onLines_block (.ofList (by decide)) (onLines_code ?_) (.ofList (by decide))
      exact List.forall_mem_singleton.mpr
        (isOrdinary_returnResponse (.ofList (by decide)) _ (.ofList (by decide)))
    refine onLines_const hP (.ofList (by decide)) (.ofList (by decide)) ?_ hclosing
    refine (htry.append (.nest ((OnLines.append (onLines_code ?_) hduplicate).append
      (onLines_code ?_)))).append (onLines_code ?_)
    all_goals exact List.forall_mem_singleton.mpr (.ofList (by decide))
  · exact onLines_const hP (.ofList (by decide)) (.ofList (by decide))
      (fun _ hc => absurd hc List.not_mem_nil) (by simp)
  · refine onLines_const hP (.ofList (by decide)) (.ofList (by decide)) (onLines_code ?_) hclosing
    simp only [List.forall_mem_cons]
    exact ⟨.ofList (by decide), .ofList (by decide), .ofList (by decide), .ofList (by decide),
      .ofList (by decide), .ofList (by decide), List.forall_mem_nil _⟩

/-- The first line of the function of an operation. -/
def handlerStart (e : Entity) (o : Operation) : String :=
  Declaration.exportWord true ++ "const " ++ e.naming.operationName o
    ++ r" = withDB(async (req: Request) => {"

theorem lines_handlerConst (e : Entity) (o : Operation) (body : List Line) :
    (handlerConst e o body).lines = block (handlerStart e o) body r"});" := rfl

theorem onLines_countResults : OnLines IsPlain countResults := by
  refine onLines_code ?_
  simp only [List.forall_mem_cons]
  exact ⟨.ofList (by decide), .ofList (by decide), List.forall_mem_nil _⟩

section

variable {e : Entity} (h : e.naming.OfParts)

include h

theorem isOrdinary_handlerStart (o : Operation) : IsOrdinary (handlerStart e o) := by
  have hname : OneLine (e.naming.operationName o) := by
    have hverb : OneLine o.verb := by cases o <;> exact .ofList (by decide)
    have hending : OneLine o.ending := by cases o <;> exact .ofList (by decide)
    exact (hverb.append h.oneLine_plural).append hending
  exact ((IsOrdinary.append (.ofList (by decide)) (.ofList (by decide))).append hname).append
    (.ofList (by decide))

theorem onLines_handler (o : Operation) {P : Source.Content → Prop} {body : List Line}
    (hP : ∀ s, IsOrdinary s → P (.code s)) (hbody : OnLines P body) :
    OnLines P (handlerConst e o body).lines := by
  rw [lines_handlerConst]
  exact .block (hP _ (isOrdinary_handlerStart h o)) hbody (hP _ (.ofList (by decide)))

theorem oneLine_changeCall : OneLine (changeCall e) :=
  OneLine.append h.oneLine_plural (.ofList (by decide))

/-- The functions for the operations that neither search nor sum up. -/
theorem onLines_others : ∀ d ∈ [getByIdHandler e, addHandler e, updateHandler e, deleteHandler e,
    bulkUpdateHandler e, bulkDeleteHandler e], OnLines IsPlain d.lines := by
  have hP (s : String) (hs : IsOrdinary s) : IsPlain (.code s) := .inr hs
  have hname : OneLine e.naming.modelName := h.oneLine_plural
  have hcall : OneLine (changeCall e) := oneLine_changeCall h
  have hreject {condition message status : String} (hcondition : OneLine condition)
      (hstatus : OneLine status) : IsOrdinary (rejectIf condition message status) :=
    isOrdinary_rejectIf hcondition message hstatus
  have hreturn {data message status : String} (hdata : OneLine data) (hstatus : OneLine status) :
      IsOrdinary (returnResponse data message status) :=
    isOrdinary_returnResponse hdata message hstatus
  have hawait {start more : String} (hstart : IsOrdinary start) (hmore : OneLine more) :
      IsOrdinary (start ++ e.naming.modelName ++ more) := (hstart.append hname).append hmore
  simp only [List.forall_mem_cons]
  refine ⟨?_, ?_, ?_, ?_, ?_, ?_, fun _ hd => absurd hd List.not_mem_nil⟩
  · refine onLines_handler h _ hP (onLines_code ?_)
    simp only [List.forall_mem_cons]
    exact ⟨.ofList (by decide), hreject (.ofList (by decide)) (.ofList (by decide)),
      hawait (.ofList (by decide)) (.ofList (by decide)),
      hreject (.ofList (by decide)) (.ofList (by decide)),
      hreturn (.ofList (by decide)) (.ofList (by decide)), List.forall_mem_nil _⟩
  · refine onLines_handler h _ hP (onLines_code ?_)
    simp only [List.forall_mem_cons]
    exact ⟨.ofList (by decide), hawait (.ofList (by decide)) (.ofList (by decide)),
      hreturn (.ofList (by decide)) (.ofList (by decide)), List.forall_mem_nil _⟩
  · have hrequest : OneLine updateRequest.source := by decide
    refine onLines_handler h _ hP (onLines_code ?_)
    simp only [List.forall_mem_cons]
    exact ⟨(IsOrdinary.append (.ofList (by decide)) hrequest).append (.ofList (by decide)),
      hreject (.ofList (by decide)) (.ofList (by decide)),
      (IsOrdinary.append (.ofList (by decide)) hcall).append (by decide),
      hreject (.ofList (by decide)) (.ofList (by decide)),
      hreturn (.ofList (by decide)) (.ofList (by decide)), List.forall_mem_nil _⟩
  · refine onLines_handler h _ hP (onLines_code ?_)
    simp only [List.forall_mem_cons]
    exact ⟨.ofList (by decide), hreject (.ofList (by decide)) (.ofList (by decide)),
      hawait (.ofList (by decide)) (.ofList (by decide)),
      hreject (.ofList (by decide)) (.ofList (by decide)),
      hreturn (.ofList (by decide)) (.ofList (by decide)), List.forall_mem_nil _⟩
  · refine onLines_handler h _ hP ?_
    refine (((onLines_code ?_).append (onLines_block (.ofList (by decide)) (onLines_code ?_)
      (.ofList (by decide)))).append onLines_countResults).append (onLines_code ?_)
    · exact List.forall_mem_singleton.mpr
        (IsOrdinary.append (.ofList (by decide)) (.ofList (by decide)))
    · exact List.forall_mem_singleton.mpr
        ((IsOrdinary.append (.ofList (by decide)) hcall).append (by decide))
    · exact List.forall_mem_singleton.mpr (hreturn (.ofList (by decide)) (.ofList (by decide)))
  · refine onLines_handler h _ hP (((onLines_code ?_).append onLines_countResults).append
      (onLines_code ?_))
    · simp only [List.forall_mem_cons]
      exact ⟨.ofList (by decide), hawait (.ofList (by decide)) (.ofList (by decide)),
        List.forall_mem_nil _⟩
    · exact List.forall_mem_singleton.mpr (hreturn (.ofList (by decide)) (.ofList (by decide)))

end

/-! ## The terms of a search -/

/-- The name in the term that comes first, and what follows the term. -/
def readTerm? (cs : List Char) : Option (String × List Char) :=
  match readBraces? (readPair? "regex") cs with
  | some ([name], rest) => some (name, rest)
  | _ => none

/-- The object that a line gives search terms, and the names in these. -/
def readTerms? : String → Option (String × List String) :=
  readStatement? ".$or = " (readArray? readTerm?) ";"

/-- The statement that gives the terms of a search. -/
def termsStatement (e : Entity) : String :=
  "filter.$or = [" ++ ", ".intercalate ((searchTerms e).map fun m => object [m]) ++ "];"

theorem takes_term (f : Field) :
    Takes readTerm? (object [.entry (propertyKey f.name) "regex"]) f.name := by
  let write (f : Field) := (Member.entry (propertyKey f.name) "regex").source
  have hbraces : Takes (readBraces? (readPair? "regex")) (inBraces ([f].map write))
      ([f].map Field.name) :=
    takes_inBraces (fun f _ => takes_pair f.name "regex") (List.cons_ne_nil _ _)
  intro rest
  have hterm : readBraces? (readPair? "regex")
      ((object [.entry (propertyKey f.name) "regex"]).toList ++ rest) = some ([f.name], rest) :=
    hbraces rest
  rw [readTerm?, hterm]

/-- **The names of the fields are read back from the terms of a search.** -/
theorem readTerms?_termsStatement (e : Entity) :
    readTerms? (termsStatement e) = some ("filter", e.searchable.map Field.name) := by
  let terms := e.searchable.map fun f => object [.entry (propertyKey f.name) "regex"]
  have hterms : (searchTerms e).map (fun m => object [m]) = terms := by
    simp [searchTerms, terms]
  have htext : termsStatement e =
      "filter" ++ ".$or = " ++ ("[" ++ ", ".intercalate terms ++ "]") ++ ";" := by
    unfold termsStatement
    rw [hterms, ← String.toList_inj]
    simp
  have harray : Takes (readArray? readTerm?) ("[" ++ ", ".intercalate terms ++ "]")
      (e.searchable.map Field.name) :=
    takes_array (fun f _ => takes_term f) fun _ => rfl
  rw [htext]
  exact readStatement?_append harray (List.all_eq_true.mp (by decide)) (c := '.') rfl (by decide)
    (by decide)

theorem oneLine_termsStatement (e : Entity) : OneLine (termsStatement e) := by
  have hterms : ∀ t ∈ (searchTerms e).map (fun m => object [m]), OneLine t := by
    rw [searchTerms, List.map_map, List.forall_mem_map]
    intro f _
    refine .inBraces (List.forall_mem_singleton.mpr ?_)
    exact ((oneLine_propertyKey f.name).append (by decide)).append (.ofList (by decide))
  exact (OneLine.append (.ofList (by decide)) (.intercalate (by decide) hterms)).append (by decide)

/-- Code on one line that gives no search terms. -/
def HasNoTerms (c : Source.Content) : Prop :=
  OneLine c.text ∧ readTerms? c.text = none

theorem IsPlain.hasNoTerms {c : Source.Content} (h : IsPlain c) : HasNoTerms c := by
  obtain rfl | h := h
  · exact ⟨by decide, rfl⟩
  · exact ⟨h.oneLine, readStatement?_of_not_prefix h.start (h.not_prefix (by decide) (by decide))⟩

/-- If there is something to search, the lines of the search have its terms. -/
theorem surrounds_termsStatement {e : Entity} (he : e.searchable.isEmpty = false) :
    Surrounds IsPlain [⟨2, .code (termsStatement e)⟩] (searchLines e) := by
  have hne : termsStatement e ≠ "" := by
    unfold termsStatement
    simp
  have hregex : OnLines IsPlain [Line.code "const regex = new RegExp(escapeRegex(q), 'i');"] :=
    .single (.inr (.ofList (by decide)))
  have hcode : code ["const regex = new RegExp(escapeRegex(q), 'i');", termsStatement e] =
      [Line.code "const regex = new RegExp(escapeRegex(q), 'i');"] ++
        [Line.code (termsStatement e)] := by
    simp [code, hne]
  unfold searchLines
  rw [if_neg (by simp [he])]
  show Surrounds _ _ (block _ (code [_, termsStatement e]) _)
  rw [hcode]
  exact .block (.inr (.ofList (by decide))) (.append_left hregex .refl)
    (.inr (.ofList (by decide)))

/-- Code on one line that does not begin the stage for a summary. -/
def IsBeforeStage (c : Source.Content) : Prop :=
  OneLine c.text ∧ c.text.toList.dropWhile (· = ' ') ≠ "$group: \x7b".toList

theorem IsPlain.isBeforeStage {c : Source.Content} (h : IsPlain c) : IsBeforeStage c := by
  obtain rfl | h := h
  · exact ⟨by decide, by decide⟩
  · exact ⟨h.oneLine, h.ne_stage⟩

/-- If there is nothing to search, these lines are ordinary code. -/
theorem onLines_searchLines {e : Entity} (he : e.searchable.isEmpty = true) :
    OnLines IsPlain (searchLines e) := by
  rw [searchLines, if_pos he]
  exact onLines_code (List.forall_mem_singleton.mpr (.ofList (by decide)))

theorem isBeforeStage_searchLines (e : Entity) : OnLines IsBeforeStage (searchLines e) := by
  cases he : e.searchable.isEmpty with
  | true => exact (onLines_searchLines he).imp fun _ hc => hc.isBeforeStage
  | false =>
    refine ((surrounds_termsStatement he).imp fun _ hc => hc.isBeforeStage).onLines
      (.single ⟨oneLine_termsStatement e, fun hstage => ?_⟩)
    have hhead := congrArg List.head? hstage
    unfold termsStatement at hhead
    simp [Source.Content.text] at hhead

section

variable {e : Entity} (h : e.naming.OfParts)

include h

/-- The function that answers with a list has the lines of the search between others. -/
theorem surrounds_searchLines : Surrounds IsPlain (nest (searchLines e)) (listHandler e).lines := by
  rw [listHandler, lines_handlerConst]
  refine .block (.inr (isOrdinary_handlerStart h _)) (.paragraphs [_] [_, _] (.inl rfl) ?_
    (.append_left (.single (l := Line.code _) (.inr (.ofList (by decide)))) .refl) ?_)
    (.inr (.ofList (by decide)))
  · refine List.forall_mem_singleton.mpr (onLines_code ?_)
    simp only [List.forall_mem_cons]
    exact ⟨.ofList (by decide), .ofList (by decide), .ofList (by decide), .ofList (by decide),
      .ofList (by decide), List.forall_mem_nil _⟩
  · have hmembers : OneLine (object (listMembers e.naming)) := by
      refine .inBraces ?_
      simp only [listMembers, List.map_cons, List.map_nil, List.forall_mem_cons]
      exact ⟨(h.oneLine_pluralCamel.append (by decide)).append (by decide), by decide, by decide,
        by decide, List.forall_mem_nil _⟩
    simp only [List.forall_mem_cons]
    refine ⟨onLines_block (.ofList (by decide)) (onLines_code ?_) (.ofList (by decide)),
      onLines_code ?_, List.forall_mem_nil _⟩
    · simp only [List.forall_mem_cons]
      exact ⟨.ofMember h.plural (by decide) (by decide), .ofMember h.plural (by decide) (by decide),
        List.forall_mem_nil _⟩
    · exact List.forall_mem_singleton.mpr
        (isOrdinary_returnResponse hmembers _ (.ofList (by decide)))

end

/-! ## The stage for a summary -/

/-- The stage that groups the records. -/
def groupStage (e : Entity) : List Line :=
  block r"$group: {" ((groupMembers e).map memberLine) r"},"

section

variable {e : Entity} (h : e.naming.OfParts)

include h

/-- The function that answers with a summary has the stage between other lines. -/
theorem surrounds_groupStage :
    Surrounds IsPlain (nest (nest (nest (groupStage e)))) (summaryHandler e).lines := by
  rw [summaryHandler, lines_handlerConst]
  refine .block (.inr (isOrdinary_handlerStart h _)) (.append_right (.append_left (onLines_code ?_)
    (.block (.inr ?_) ?_ (.inr (.ofList (by decide))))) (onLines_code ?_))
    (.inr (.ofList (by decide)))
  · simp only [List.forall_mem_cons]
    exact ⟨.ofList (by decide), .ofList (by decide), List.forall_mem_nil _⟩
  · exact ((IsOrdinary.append (.ofList (by decide)) h.oneLine_plural).append (.ofList (by decide)))
  · -- The stage is the second one of three.
    refine .append_right (.append_left (onLines_code ?_) (.block (.inr (.ofList (by decide))) .refl
      (.inr (.ofList (by decide))))) (onLines_code ?_)
    · exact List.forall_mem_singleton.mpr (.ofList (by decide))
    · exact List.forall_mem_singleton.mpr (.ofList (by decide))
  · simp only [List.forall_mem_cons]
    exact ⟨.append (.ofList (by decide)) (.ofList (by decide)),
      isOrdinary_returnResponse (.ofList (by decide)) _ (.ofList (by decide)),
      List.forall_mem_nil _⟩

end

/-- The names in a row of a summary with their values. -/
def groupEntries (e : Entity) : List (String × String) :=
  [("_id", r"{ year: { $year: '$createdAt' }, month: { $month: '$createdAt' } }"),
    ("count", r"{ $sum: 1 }")] ++
      e.numeric.map fun f => (totalName f, r"{ $sum: " ++ literal ("$" ++ f.name) ++ r" }")

/-- The members of a row as texts. -/
def groupTexts (e : Entity) : List String :=
  (groupEntries e).map fun entry => propertyKey entry.1 ++ ": " ++ entry.2 ++ ","

theorem lines_groupMembers (e : Entity) :
    (groupMembers e).map memberLine = (groupTexts e).map Line.code := by
  have hid : propertyKey "_id" = "_id" := by decide
  have hcount : propertyKey "count" = "count" := by decide
  simp [groupMembers, groupTexts, groupEntries, memberLine, Member.source, totalMember, hid, hcount]

theorem groupStage_eq (e : Entity) : nest (nest (nest (groupStage e))) =
    ⟨6, .code "$group: \x7b"⟩ ::
      ((groupTexts e).map (fun t => ⟨8, .code t⟩) ++ [⟨6, .code r"},"⟩]) := by
  rw [groupStage, lines_groupMembers]
  simp [block, nest, indentBy, Line.code]

theorem oneLine_groupTexts (e : Entity) : ∀ t ∈ groupTexts e, OneLine t := by
  have hvalues : ∀ entry ∈ groupEntries e, OneLine entry.2 := by
    simp only [groupEntries, List.forall_mem_append, List.forall_mem_cons, List.forall_mem_map]
    exact ⟨⟨.ofList (by decide), .ofList (by decide), List.forall_mem_nil _⟩, fun f _ =>
      (OneLine.append (.ofList (by decide)) (oneLine_literal _)).append (.ofList (by decide))⟩
  rw [groupTexts, List.forall_mem_map]
  exact fun entry hentry => (((oneLine_propertyKey entry.1).append (by decide)).append
    (hvalues entry hentry)).append (by decide)

theorem hasNoTerms_groupStage (e : Entity) : OnLines HasNoTerms (groupStage e) := by
  have hkeys : ∀ t ∈ groupTexts e, readTerms? t = none := by
    rw [groupTexts, List.forall_mem_map]
    intro entry _
    rw [String.append_assoc, String.append_assoc]
    exact readStatement?_of_key entry.1 _ (c := '.') rfl (by decide)
  refine .block ⟨.ofList (by decide), rfl⟩ ?_ ⟨.ofList (by decide), rfl⟩
  rw [lines_groupMembers, OnLines, List.map_map, List.forall_mem_map]
  exact fun t ht => ⟨oneLine_groupTexts e t ht, hkeys t ht⟩

/-! ## The module -/

theorem onLines_import {i : Import} (htall : i.tall = false) (hclause : OneLine i.clause)
    (hsource : OneLine i.source) : OnLines IsPlain i.lines := by
  have hfrom : IsOrdinary ("import " ++ i.clause ++ " from '" ++ i.source ++ "';") :=
    (((IsOrdinary.append (.ofList (by decide)) hclause).append (by decide)).append hsource).append
      (by decide)
  have hbare : IsOrdinary ("import '" ++ i.source ++ "';") :=
    (IsOrdinary.append (.ofList (by decide)) hsource).append (by decide)
  rw [Import.lines, if_neg (by simp [htall])]
  split
  · exact .single (.inr hbare)
  · exact .single (.inr hfrom)

/-- The comment and the imports of the controller. -/
def controllerHead (e : Entity) : List Line :=
  ((controller e).sections.take 1).flatten.flatMap Item.lines

/-- What stands in the controller before the function that answers with a list. -/
def groupsBefore (e : Entity) : List (List Line) :=
  controllerHead e :: [handlerType, formatResponse, withDatabase, escapeRegex,
    dateRangeFilter].map Declaration.lines

/-- What stands between this function and the one that answers with a summary. -/
def groupsBetween (e : Entity) : List (List Line) :=
  [getByIdHandler e, addHandler e, updateHandler e, deleteHandler e, bulkUpdateHandler e,
    bulkDeleteHandler e].map Declaration.lines

theorem lines_controller (e : Entity) : (controller e).lines = paragraphs (groupsBefore e ++
    (listHandler e).lines :: (groupsBetween e ++ [(summaryHandler e).lines])) := by
  simp [File.lines, groupsBefore, groupsBetween, controllerHead, controller, Item.lines]

section

variable {e : Entity} (h : e.naming.OfParts)

include h

theorem onLines_controllerHead : OnLines IsPlain (controllerHead e) := by
  have hcomment : OnLines IsPlain
      (Item.comment ("Auto-generated controller for " ++ e.naming.plural)).lines :=
    .single (l := Line.code _) (.inr (IsOrdinary.append (.ofList (by decide))
      (.append (.ofList (by decide)) h.oneLine_plural)))
  have hmodel : OneLine (Import.byDefault e.naming.modelName "./model").clause :=
    .intercalate (by decide) (List.forall_mem_singleton.mpr h.oneLine_plural)
  have hhead : controllerHead e =
      (Item.comment ("Auto-generated controller for " ++ e.naming.plural)).lines ++
        ((Import.named ["NextResponse"] "next/server").lines ++
          ((Import.byDefault "connectDB" "@/app/api/utils/db").lines ++
            (Import.byDefault e.naming.modelName "./model").lines)) := by
    simp [controllerHead, controller, Item.lines]
  have hserver : OnLines IsPlain (Import.named ["NextResponse"] "next/server").lines :=
    onLines_import rfl (by decide) (by decide)
  have hconnect : OnLines IsPlain (Import.byDefault "connectDB" "@/app/api/utils/db").lines :=
    onLines_import rfl (by decide) (by decide)
  have hplace : OneLine "./model" := by decide
  rw [hhead]
  exact hcomment.append (hserver.append (hconnect.append (onLines_import rfl hmodel hplace)))

theorem onLines_groupsBefore : ∀ g ∈ groupsBefore e, OnLines IsPlain g :=
  List.forall_mem_cons.mpr ⟨onLines_controllerHead h, List.forall_mem_map.mpr onLines_shared⟩

theorem onLines_groupsBetween : ∀ g ∈ groupsBetween e, OnLines IsPlain g :=
  List.forall_mem_map.mpr (onLines_others h)

/-- Only the lines of the search can have terms. -/
theorem surrounds_terms : Surrounds HasNoTerms (nest (searchLines e)) (controller e).lines := by
  have hplain {lines : List Line} (hlines : OnLines IsPlain lines) : OnLines HasNoTerms lines :=
    hlines.imp fun _ hc => hc.hasNoTerms
  have hsummary : OnLines HasNoTerms (summaryHandler e).lines :=
    ((surrounds_groupStage h).imp fun _ hc => hc.hasNoTerms).onLines
      (hasNoTerms_groupStage e).nest.nest.nest
  rw [lines_controller]
  refine .paragraphs _ _ (IsPlain.hasNoTerms (.inl rfl))
    (fun g hg => hplain (onLines_groupsBefore h g hg))
    ((surrounds_searchLines h).imp fun _ hc => hc.hasNoTerms) ?_
  rw [List.forall_mem_append, List.forall_mem_singleton]
  exact ⟨fun g hg => hplain (onLines_groupsBetween h g hg), hsummary⟩

/-- No line before the stage begins it. -/
theorem surrounds_stage :
    Surrounds IsBeforeStage (nest (nest (nest (groupStage e)))) (controller e).lines := by
  have hplain {lines : List Line} (hlines : OnLines IsPlain lines) : OnLines IsBeforeStage lines :=
    hlines.imp fun _ hc => hc.isBeforeStage
  have hlist : OnLines IsBeforeStage (listHandler e).lines :=
    ((surrounds_searchLines h).imp fun _ hc => hc.isBeforeStage).onLines
      (isBeforeStage_searchLines e).nest
  rw [lines_controller, ← List.cons_append, ← List.append_assoc]
  refine .paragraphs _ [] (IsPlain.isBeforeStage (.inl rfl)) ?_
    ((surrounds_groupStage h).imp fun _ hc => hc.isBeforeStage) (List.forall_mem_nil _)
  rw [List.forall_mem_append, List.forall_mem_cons]
  exact ⟨fun g hg => hplain (onLines_groupsBefore h g hg), hlist,
    fun g hg => hplain (onLines_groupsBetween h g hg)⟩

/-- **The members of a row stand in the text between the ends of the stage.** -/
theorem linesBetween_group :
    linesBetween "      $group: \x7b" r"      }," (textLines (controller e).text) =
      (groupTexts e).map fun t => Line.text ⟨8, .code t⟩ := by
  obtain ⟨before, after, hlines, hbefore, -⟩ := surrounds_stage h
  rw [groupStage_eq, List.cons_append, List.append_assoc] at hlines
  have hfirst : ∀ l ∈ before, OneLine l.text ∧ l.text ≠ "      $group: \x7b" := by
    intro l hl
    obtain ⟨hone, hne⟩ := hbefore l.content (List.mem_map_of_mem hl)
    refine ⟨oneLine_text hone, fun he => hne ?_⟩
    rw [← dropWhile_text, he]
    decide
  exact linesBetween_code hlines (by decide) (by decide) hfirst (by decide) (oneLine_groupTexts e)
    (by decide) (by decide) rfl (by decide)

/-- **The terms are read from one line of the text**, or from none if there is nothing to search. -/
theorem filterMap_readTerms?_controller :
    (textLines (controller e).text).filterMap readTerms? =
      if e.searchable.isEmpty then [] else [("filter", e.searchable.map Field.name)] := by
  have hsearch : OnLines (fun c => OneLine c.text) (searchLines e) :=
    (isBeforeStage_searchLines e).imp fun _ hc => hc.1
  have hall : OnLines (fun c => OneLine c.text) (controller e).lines :=
    ((surrounds_terms h).imp fun _ hc => hc.1).onLines hsearch.nest
  have hterms := ((surrounds_terms h).imp fun _ hc => hc.2).readOn_eq
  refine (filterMap_readStatement?_textLines hall rfl).trans (hterms.trans ?_)
  rw [readOn_nest]
  cases he : e.searchable.isEmpty with
  | true => exact ((onLines_searchLines he).imp fun _ hc => hc.hasNoTerms.2).readOn_eq_nil
  | false =>
    have hsearched := (surrounds_termsStatement he).imp fun _ hc => hc.hasNoTerms.2
    exact hsearched.readOn_eq.trans (List.filterMap_cons_some (readTerms?_termsStatement e))

end

end EntitySlice.Slice
