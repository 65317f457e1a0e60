import EntitySlice.Proofs.Identifiers
import EntitySlice.Proofs.NewRecords
import EntitySlice.Proofs.Slice.DialogLines
import EntitySlice.Proofs.Slice.ServerLines
import EntitySlice.Proofs.Source.Cells

/-!
# Fields in sums and searches

Two lists of fields are written for the server and for the page, or twice for the server: those that
a summary has the sums of, and those that a search looks at. Each list is read back from both places
as the names of the same fields in the same order (`plan_sharesFields`), whatever the names are.
-/

namespace EntitySlice.Slice

open EntitySlice.Source

/-! ## Sums in the database -/

/-- The path that a value sums over. -/
def readSum? (value : String) : Option String := do
  match ← readText? (← "\x7b $sum: ".toList.isPrefixOf? value.toList) with
  | (path, [' ', '\x7d']) => some path
  | _ => none

/-- The key of a line in the stage for a summary, and the path that its value sums over. -/
def readGroupLine? (line : String) : Option (String × Option String) :=
  (readKeyLine? ',' line).map fun l => (l.name, readSum? l.content)

theorem readSum?_literal (path : String) :
    readSum? (r"{ $sum: " ++ literal path ++ r" }") = some path := by
  have hlist : (r"{ $sum: " ++ literal path ++ r" }").toList =
      "\x7b $sum: ".toList ++ ((literal path).toList ++ [' ', '\x7d']) := by
    simp
  rw [readSum?, hlist, isPrefixOf?_append]
  simp only [Option.bind_eq_bind, Option.bind_some, takes_literal path _]

/-- **The keys of a row and the paths of its sums are read back from the stage.** -/
theorem read_groupTexts (e : Entity) :
    ((groupTexts e).map fun t => Line.text ⟨8, .code t⟩).map readGroupLine? =
      (("_id", none) :: ("count", none) ::
        e.numeric.map fun f => (totalName f, some ("$" ++ f.name))).map some := by
  have hline (entry : String × String) : readGroupLine? (Line.text
      ⟨8, .code (propertyKey entry.1 ++ ": " ++ entry.2 ++ ",")⟩) =
        some (entry.1, readSum? entry.2) := by
    rw [readGroupLine?, readKeyLine?_keyLine 8 entry.1 entry.2 rfl]
    rfl
  have hdate : readSum? r"{ year: { $year: '$createdAt' }, month: { $month: '$createdAt' } }" =
      none := rfl
  have hcount : readSum? r"{ $sum: 1 }" = none := rfl
  simp only [groupTexts, List.map_map, Function.comp_def, hline]
  simp only [groupEntries, List.map_append, List.map_cons, List.map_nil, List.map_map,
    Function.comp_def, hdate, hcount, readSum?_literal]
  rfl

/-- Fields with different names have different sums. -/
theorem totalName_injective {f g : Field} (h : totalName f = totalName g) : f.name = g.name := by
  have hlist := congrArg String.toList h
  simp only [totalName, String.toList_append] at hlist
  exact String.toList_inj.mp (List.append_cancel_right hlist)

/-- **No key comes twice in a row.** -/
theorem nodup_groupKeys {e : Entity} (h : (e.fields.map Field.name).Nodup) :
    ("_id" :: "count" :: e.numeric.map totalName).Nodup := by
  have hnames : (e.numeric.map Field.name).Nodup := h.sublist (List.filter_sublist.map _)
  have htotals : (e.numeric.map totalName).Nodup := by
    rw [List.Nodup, List.pairwise_map] at hnames ⊢
    exact hnames.imp fun hne he => hne (totalName_injective he)
  -- The other keys end with other letters.
  have hend {s : String} (hs : s.toList.getLast? ≠ some 'l') : s ∉ e.numeric.map totalName := by
    intro hmem
    obtain ⟨f, -, rfl⟩ := List.mem_map.mp hmem
    exact hs (by simp [totalName])
  refine List.nodup_cons.mpr ⟨?_, List.nodup_cons.mpr ⟨hend (by decide), htotals⟩⟩
  rw [List.mem_cons, not_or]
  exact ⟨by decide, hend (by decide)⟩

/-! ## The index for searches -/

/-- The schema that a line makes an index for, and the names in the index. -/
def readIndex? : String → Option (String × List String) :=
  readStatement? ".index(" (readBraces? (readPair? "'text'")) ");"

/-- The statement that makes the index. -/
def indexStatement (e : Entity) : String :=
  e.naming.schemaConst ++ ".index(" ++ object (indexMembers e) ++ ");"

/-- **The names of the fields are read back from the index.** -/
theorem readIndex?_indexStatement {e : Entity} (h : e.naming.OfParts)
    (hne : e.searchable ≠ []) : readIndex? (indexStatement e) =
      some (e.naming.schemaConst, e.searchable.map Field.name) := by
  have hmembers : (indexMembers e).map Member.source =
      e.searchable.map fun f => (Member.entry (propertyKey f.name) "'text'").source := by
    simp [indexMembers]
  have hobject : Takes (readBraces? (readPair? "'text'")) (object (indexMembers e))
      (e.searchable.map Field.name) := by
    rw [object, hmembers]
    exact takes_inBraces (fun f _ => takes_pair f.name "'text'") hne
  unfold indexStatement
  exact readStatement?_append hobject (Naming.isIdentifierPart_schemaConst h.singular) (c := '.')
    rfl (by decide) (by decide)

theorem oneLine_indexStatement {e : Entity} (h : e.naming.OfParts) :
    OneLine (indexStatement e) := by
  have hmembers : ∀ t ∈ (indexMembers e).map Member.source, OneLine t := by
    rw [indexMembers, List.map_map, List.forall_mem_map]
    exact fun f _ => ((oneLine_propertyKey f.name).append (by decide)).append (by decide)
  exact ((h.oneLine_schemaConst.append (by decide)).append (.inBraces hmembers)).append (by decide)

/-- Code on one line that makes no index. -/
def HasNoIndex (c : Source.Content) : Prop :=
  OneLine c.text ∧ readIndex? c.text = none

theorem IsPlain.hasNoIndex {c : Source.Content} (h : IsPlain c) : HasNoIndex c := by
  obtain rfl | h := h
  · exact ⟨by decide, rfl⟩
  · exact ⟨h.oneLine,
      readStatement?_of_not_prefix h.start (h.not_prefix (by decide) (by decide))⟩

/-- What the model begins with. -/
def modelHead (e : Entity) : List Line :=
  ((model e).sections.take 1).flatten.flatMap Item.lines

/-- What the model is for. -/
def modelValue (e : Entity) : List Line :=
  ((model e).sections.getLast?.toList).flatten.flatMap Item.lines

theorem lines_model_paragraphs (e : Entity) : (model e).lines =
    paragraphs ([modelHead e, (schemaDeclaration e).lines] ++
      ((if e.searchable.isEmpty then [] else [[Line.code (indexStatement e)]])
        ++ [modelValue e])) := by
  unfold indexStatement
  cases he : e.searchable.isEmpty <;>
    simp [File.lines, model, modelHead, modelValue, schemaDeclaration, indexSection, he, Item.lines,
      Declaration.lines]

section

variable {e : Entity} (h : e.naming.OfParts)

include h

theorem onLines_modelHead : OnLines IsPlain (modelHead e) := by
  have hcomment : OnLines IsPlain
      (Item.comment ("Auto-generated mongoose model for " ++ e.naming.plural)).lines :=
    .single (l := Line.code _) (.inr (IsOrdinary.append (.ofList (by decide))
      (.append (.ofList (by decide)) h.oneLine_plural)))
  have himport : OnLines IsPlain
      (⟨some "mongoose", ["Schema"], "mongoose", false⟩ : Import).lines :=
    onLines_import rfl (by decide) (by decide)
  have hhead : modelHead e =
      (Item.comment ("Auto-generated mongoose model for " ++ e.naming.plural)).lines ++
        (⟨some "mongoose", ["Schema"], "mongoose", false⟩ : Import).lines := by
    simp [modelHead, model, Item.lines]
  rw [hhead]
  exact hcomment.append himport

theorem onLines_modelValue : OnLines IsPlain (modelValue e) := by
  have hname : OneLine e.naming.modelName := h.oneLine_plural
  have hvalue : modelValue e = [Line.code ("export default " ++ ("mongoose.models."
      ++ e.naming.modelName ++ " || mongoose.model('" ++ e.naming.modelName ++ "', "
      ++ e.naming.schemaConst ++ ")") ++ ";")] := by
    cases he : e.searchable.isEmpty <;>
      simp [modelValue, model, indexSection, he, Item.lines, Declaration.lines]
  have hexpression : OneLine ("mongoose.models." ++ e.naming.modelName ++ " || mongoose.model('"
      ++ e.naming.modelName ++ "', " ++ e.naming.schemaConst ++ ")") :=
    (((((OneLine.append (.ofList (by decide)) hname).append (.ofList (by decide))).append
      hname).append (by decide)).append h.oneLine_schemaConst).append (by decide)
  rw [hvalue]
  exact .single (.inr ((IsOrdinary.append (.ofList (by decide)) hexpression).append (by decide)))

/-- The fields of the schema have keys before them. -/
theorem onLines_schemaDeclaration : OnLines HasNoIndex (schemaDeclaration e).lines := by
  have hP (s : String) (hs : IsOrdinary s) : HasNoIndex (.code s) := IsPlain.hasNoIndex (.inr hs)
  have hfields : OnLines HasNoIndex (e.fields.map fun f => memberLine (fieldMember f)) := by
    rw [OnLines, List.map_map, List.forall_mem_map]
    intro f hf
    refine ⟨oneLine_modelTexts e _ (List.mem_map_of_mem hf), ?_⟩
    have htext : (memberLine (fieldMember f)).content.text = propertyKey f.name ++ (": " ++
        (object ((constraints f).map Constraint.member) ++ ",")) := by
      rw [← String.append_assoc, ← String.append_assoc]
      rfl
    rw [Function.comp_apply, htext]
    exact readStatement?_of_key f.name _ (c := '.') rfl (by decide)
  refine onLines_const hP h.oneLine_schemaConst (.ofList (by decide)) (.append (.block
    (hP _ (.ofList (by decide))) hfields (hP _ (.ofList (by decide)))) ?_) ?_
  · exact (onLines_code (List.forall_mem_singleton.mpr (.ofList (by decide)))).imp
      fun _ hc => hc.hasNoIndex
  · rintro s ⟨⟩
    exact .ofList (by decide)

/-- **The index is read from one line of the text**, or from none if there is nothing to search. -/
theorem filterMap_readIndex?_model : (textLines (model e).text).filterMap readIndex? =
    if e.searchable.isEmpty then [] else [(e.naming.schemaConst, e.searchable.map Field.name)] := by
  have hblank : HasNoIndex .blank := IsPlain.hasNoIndex (.inl rfl)
  have hbefore : ∀ g ∈ [modelHead e, (schemaDeclaration e).lines], OnLines HasNoIndex g := by
    rw [List.forall_mem_cons, List.forall_mem_singleton]
    exact ⟨(onLines_modelHead h).imp fun _ hc => hc.hasNoIndex, onLines_schemaDeclaration h⟩
  have hafter : ∀ g ∈ [modelValue e], OnLines HasNoIndex g :=
    List.forall_mem_singleton.mpr ((onLines_modelValue h).imp fun _ hc => hc.hasNoIndex)
  have hlines := lines_model_paragraphs e
  cases he : e.searchable.isEmpty with
  | true =>
    rw [he, if_pos rfl, List.nil_append] at hlines
    have hall : OnLines HasNoIndex (model e).lines := by
      rw [hlines]
      exact .paragraphs hblank (List.forall_mem_append.mpr ⟨hbefore, hafter⟩)
    exact (filterMap_readStatement?_textLines (hall.imp fun _ hc => hc.1) rfl).trans
      (hall.imp fun _ hc => hc.2).readOn_eq_nil
  | false =>
    rw [he, if_neg (by decide), List.singleton_append] at hlines
    have hall : Surrounds HasNoIndex [Line.code (indexStatement e)] (model e).lines := by
      rw [hlines]
      exact .paragraphs _ _ hblank hbefore .refl hafter
    have hne : e.searchable ≠ [] := fun hnil => by simp [hnil] at he
    have hindex := readIndex?_indexStatement h hne
    have hread := (hall.imp fun _ hc => hc.2).readOn_eq.trans (List.filterMap_cons_some hindex)
    exact (filterMap_readStatement?_textLines ((hall.imp fun _ hc => hc.1).onLines
      (.single (oneLine_indexStatement h))) rfl).trans hread

end

/-! ## Cells of the table with the sums -/

/-- The key of the sum that a cell shows. -/
def readTotal? (cell : String) : Option String := do
  match ← readText? (← "\x7bString(row[".toList.isPrefixOf? cell.toList) with
  | (key, [']', ' ', '?', '?', ' ', '0', ')', '\x7d']) => some key
  | _ => none

/-- What a cell with a sum says. -/
def totalCell (f : Field) : String := r"{String(row[" ++ literal (totalName f) ++ r"] ?? 0)}"

theorem readTotal?_totalCell (f : Field) : readTotal? (totalCell f) = some (totalName f) := by
  have hlist : (totalCell f).toList = "\x7bString(row[".toList ++
      ((literal (totalName f)).toList ++ [']', ' ', '?', '?', ' ', '0', ')', '\x7d']) := by
    simp [totalCell]
  rw [readTotal?, hlist, isPrefixOf?_append]
  simp only [Option.bind_eq_bind, Option.bind_some, takes_literal (totalName f) _]

/-- **The table has a cell for each sum in its head and one in its body**, and the dialog has no
other cells. -/
theorem marks_summaryDialog (e : Entity) :
    marks "th" (summaryDialog e).lines =
        [.around ⟨"th", [classes "px-3 py-2 text-left"]⟩ "Month",
          .around ⟨"th", [classes "px-3 py-2 text-right"]⟩ "Count"] ++
        e.numeric.map (fun f => .around ⟨"th", [classes "px-3 py-2 text-right"]⟩
          (label f ++ " Total")) ∧
      marks "td" (summaryDialog e).lines =
        [.around ⟨"td", [classes "px-3 py-2"]⟩ r"{monthLabel(row)}",
          .around ⟨"td", [classes "px-3 py-2 text-right"]⟩ r"{row.count}"] ++
        e.numeric.map fun f => .around ⟨"td", [classes "px-3 py-2 text-right"]⟩ (totalCell f) := by
  have hheading : summaryHeading = fun f => around ⟨"th", [classes "px-3 py-2 text-right"]⟩
      (label f ++ " Total") := rfl
  have hcell : summaryCell = fun f => around ⟨"td", [classes "px-3 py-2 text-right"]⟩
      (totalCell f) := rfl
  have hdeclarations (tag : String) : marks tag (summaryDialog e).lines =
      (summaryDialog e).declarations.flatMap fun d => marks tag d.lines :=
    File.readOn_declarations (fun _ => rfl) rfl _
  constructor
  all_goals
    rw [hdeclarations, File.declarations, File.items, summaryDialog]
    simp [clientDirective, storeImport, operationImport, Item.declaration?, List.filterMap_cons,
      Declaration.lines, Definition.lines, dialog, division, button, closeRow, closeButton,
      paragraph, paragraphElement, paragraphIf, propertyLine, summaryTable, tableElement, forEach,
      hheading, hcell, marks_map_around]

/-- A title can be told from code and from tags. -/
theorem isInside_totalHeading (f : Field) : IsInside (label f ++ " Total") := by
  have hlist : (label f ++ " Total").toList = (label f).toList ++ " Total".toList :=
    String.toList_append
  refine .inr ⟨?_, ?_⟩
  · rw [hlist, List.mem_append, not_or]
    exact ⟨notMem_markupText (by decide) f.title, by decide⟩
  · rw [hlist]
    cases hlabel : (label f).toList with
    | nil => decide
    | cons c cs =>
      have hc : c ∈ (label f).toList := hlabel ▸ List.mem_cons_self
      rw [List.cons_append, List.head?_cons, ne_eq, Option.some_inj]
      exact ne_of_mem_of_not_mem hc (notMem_markupText (by decide) f.title)

theorem isInside_totalCell (f : Field) : IsInside (totalCell f) := by
  refine .inl ⟨"String(row[" ++ literal (totalName f) ++ "] ?? 0)",
    ((Balanced.ofList (by decide)).append (.literal _)).append (.ofList (by decide)), ?_⟩
  simp [totalCell, braced, ← String.toList_inj]

section

variable {e : Entity} (h : e.naming.OfParts)

include h

/-- **The texts above the sums are read back from the text of the dialog.** -/
theorem readCells_headings : readCells "th" (summaryDialog e).text =
    "Month" :: "Count" :: e.numeric.map fun f => label f ++ " Total" := by
  have hmarks := (marks_summaryDialog e).1
  have hcells : ∀ c ∈ marks "th" (summaryDialog e).lines, c.IsCell := by
    rw [hmarks, List.forall_mem_append, List.forall_mem_map, List.forall_mem_cons,
      List.forall_mem_singleton]
    exact ⟨⟨.inr (by decide), .inr (by decide)⟩, fun f _ => isInside_totalHeading f⟩
  rw [readCells_text (areMarkup_summaryDialog h) hcells, cells_eq_filterMap, hmarks,
    List.filterMap_append, filterMap_cell?_map_around]
  rfl

/-- **The names of the sums are read back from the cells of each row**, behind two other cells. -/
theorem readCells_totals : (readCells "td" (summaryDialog e).text).map readTotal? =
    none :: none :: e.numeric.map fun f => some (totalName f) := by
  have hmarks := (marks_summaryDialog e).2
  have hcells : ∀ c ∈ marks "td" (summaryDialog e).lines, c.IsCell := by
    rw [hmarks, List.forall_mem_append, List.forall_mem_map, List.forall_mem_cons,
      List.forall_mem_singleton]
    refine ⟨⟨.inl ⟨"monthLabel(row)", .ofList (by decide), rfl⟩,
      .inl ⟨"row.count", .ofList (by decide), rfl⟩⟩, fun f _ => isInside_totalCell f⟩
  have hmonth : readTotal? r"{monthLabel(row)}" = none := rfl
  have hcount : readTotal? r"{row.count}" = none := rfl
  rw [readCells_text (areMarkup_summaryDialog h) hcells, cells_eq_filterMap, hmarks,
    List.filterMap_append, filterMap_cell?_map_around]
  simp [cell?, hmonth, hcount, readTotal?_totalCell]

end

/-! ## Fields in the order of the schema -/

/-- The names of some fields are those of the descriptions that the fields are made from. -/
theorem map_name_filter {specs : List FieldSpec} {P : Field → Bool} {Q : FieldSpec → Bool}
    (h : ∀ f ∈ Field.ofSpecs specs, P f = Q f.spec) :
    ((Field.ofSpecs specs).filter P).map Field.name = (specs.filter Q).map FieldSpec.name := by
  have hspecs : (Field.ofSpecs specs).map Field.spec = specs :=
    (map_ofSpecs (fun s _ => s) specs).trans (List.map_id' specs)
  rw [List.filter_congr h]
  conv_rhs => rw [← hspecs, List.filter_map, List.map_map]
  rfl

/-- The names of the fields that a summary has the sums of. -/
def summedNames (specs : List FieldSpec) : List String :=
  (specs.filter (·.widget.valueKind.isNumeric)).map FieldSpec.name

/-- The names of the fields that a search looks at. -/
def searchableNames (specs : List FieldSpec) : List String :=
  (specs.filter (·.widget.isSearchable)).map FieldSpec.name

section

variable {e : Entity} {specs : List FieldSpec} (h : e.fields = Field.ofSpecs specs)

include h

theorem map_name_numeric : e.numeric.map Field.name = summedNames specs := by
  rw [Entity.numeric, h]
  refine map_name_filter fun f hf => ?_
  rw [Field.valueKind, Classification.valueKind, classification_ofSpecs f hf]
  rfl

theorem map_name_searchable : e.searchable.map Field.name = searchableNames specs := by
  rw [Entity.searchable, h]
  refine map_name_filter fun f hf => ?_
  rw [Field.widget, classification_ofSpecs f hf]
  rfl

end

end EntitySlice.Slice

namespace EntitySlice

open EntitySlice.Slice EntitySlice.Source

/-! ## Plans -/

/-- The key of the sum over a field. -/
def totalKey (name : String) : String := name ++ "Total"

/--
Whether the modules of a plan have the sums over some fields and the searches of others, given by
their names, wherever they have any.
-/
structure Plan.SharesFields (p : Plan) (summed searched : List String) : Prop where
  /-- A row of a summary has a month, a number of records and the sum over each field. -/
  group : ∃ lines, p.block? .controller "      $group: \x7b" r"      }," = some lines ∧
    lines.map readGroupLine? = (("_id", none) :: ("count", none) ::
      summed.map fun name => (totalKey name, some ("$" ++ name))).map some
  /-- No key comes twice in a row. -/
  keys : ("_id" :: "count" :: summed.map totalKey).Nodup
  /-- In the text of the page, the table has a column for each key, and the cells of a row show the
  sums. -/
  summary : ∃ text, p.text? .summary = some text ∧
    readCells "th" text = "Month" :: "Count" ::
      summed.map (fun name => markupText (Text.titleCase name) ++ " Total") ∧
    (readCells "td" text).map readTotal? =
      none :: none :: summed.map fun name => some (totalKey name)
  /-- The database has an index for searches over the fields, if there are any. -/
  index : ∃ text, p.text? .model = some text ∧ (textLines text).filterMap readIndex? =
    if searched.isEmpty then [] else [(p.entity.naming.schemaConst, searched)]
  /-- A search has a term for each of these fields, if there are any. -/
  terms : ∃ text, p.text? .controller = some text ∧ (textLines text).filterMap readTerms? =
    if searched.isEmpty then [] else [("filter", searched)]

/--
**The server and the page agree on the fields.** The sums are over the fields with numbers and the
searches over the fields with texts, in the order of the schema, wherever the modules of a plan go
through them.
-/
theorem plan_sharesFields {keys : NamingKeys} {text : String} {p : Plan}
    (h : plan keys text = .ok p) : ∃ s, Schema.parse text = .ok s ∧
      p.artifacts = (files p.entity).map SliceFile.artifact ∧
      p.SharesFields (summedNames s.fields) (searchableNames s.fields) := by
  obtain ⟨s, hs, hfields, hnames⟩ := fields_of_plan h
  refine ⟨s, hs, (plan_eq_ok_iff.mp h).2, ?_⟩
  have hsummed := map_name_numeric hfields
  have hsearched := map_name_searchable hfields
  constructor
  case group =>
    refine ⟨_, block?_of_plan h (q := .controller) rfl (linesBetween_group hnames), ?_⟩
    rw [read_groupTexts, ← hsummed, List.map_map]
    rfl
  case keys =>
    have hkeys := nodup_groupKeys (nodup_names_of_plan h)
    rw [← hsummed, List.map_map]
    exact hkeys
  case summary =>
    have hsummary : Part.summary.singleFile? p.entity = some ⟨.summary,
        p.entity.componentDir / "Summary.tsx", .source (summaryDialog p.entity)⟩ := rfl
    refine ⟨_, text?_of_plan h hsummary, ?_, ?_⟩
    · rw [Slice.Content.text, readCells_headings hnames, ← hsummed, List.map_map]
      rfl
    · rw [Slice.Content.text, readCells_totals hnames, ← hsummed, List.map_map]
      rfl
  case index =>
    refine ⟨_, text?_of_plan h (q := .model) rfl, ?_⟩
    rw [← hsearched, List.isEmpty_map]
    exact filterMap_readIndex?_model hnames
  case terms =>
    refine ⟨_, text?_of_plan h (q := .controller) rfl, ?_⟩
    rw [← hsearched, List.isEmpty_map]
    exact filterMap_readTerms?_controller hnames

/-- A schema with names that end like sums and names that are no identifiers. -/
def totalsSchema : String :=
  "\x7b\"namingConvention\":\x7b\"Users_1_000___\":\"Posts\",\"users_2_000___\":\"posts\","
    ++ "\"User_3_000___\":\"Post\"\x7d,"
    ++ "\"fields\":[\x7b\"name\":\"total\",\"type\":\"INTNUMBER\"\x7d,"
    ++ "\x7b\"name\":\"it's\",\"type\":\"STRING\"\x7d,"
    ++ "\x7b\"name\":\"total Total\",\"type\":\"FLOATNUMBER\"\x7d,"
    ++ "\x7b\"name\":\"kind\",\"type\":\"SELECT\",\"options\":[\"a\"]\x7d]\x7d"

theorem plan_sharesFields_totalsSchema : ∃ p, plan {} totalsSchema = .ok p ∧
    p.SharesFields ["total", "total Total"] ["it's", "kind"] := by
  obtain ⟨p, hp, hfields⟩ : ∃ p, plan {} totalsSchema = .ok p ∧
      (p.entity.numeric.map Field.name, p.entity.searchable.map Field.name) =
        (["total", "total Total"], ["it's", "kind"]) := by
    apply exists_plan_of_chars
      (fun e => (e.numeric.map Field.name, e.searchable.map Field.name))
    · unfold totalsSchema
      iterate 5 apply toList_append_eq String.toList_ofList
      exact String.toList_ofList
    · decide +kernel
  obtain ⟨s, hs, -, hshares⟩ := plan_sharesFields hp
  obtain ⟨s', hs', hspecs, -⟩ := fields_of_plan hp
  obtain rfl : s' = s := Except.ok.inj (hs'.symm.trans hs)
  obtain ⟨hsummed, hsearched⟩ := Prod.mk.inj hfields
  rw [map_name_numeric hspecs] at hsummed
  rw [map_name_searchable hspecs] at hsearched
  refine ⟨p, hp, ?_⟩
  rwa [hsummed, hsearched] at hshares

end EntitySlice
