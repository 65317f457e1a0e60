import EntitySlice.Proofs.Source.TextLines
import EntitySlice.Proofs.Slice.Files

/-!
# What the code of a slice is made from

The code of a slice is made from the names of its entity and, of each field, from the name, the
options, the classification and the local key. The folder flag, the document of the schema, the tags
of the fields and how options and flags were spelled do not enter it: an entity and its `essence`,
which has none of these, have the same modules. Two parts depend on more, the copy of the schema
and the module that tells the client where requests go; the latter does in a single line.
-/

namespace EntitySlice

/-- The field without the wording of its description. -/
def Field.essence (f : Field) : Field :=
  { f with spec := { name := f.name, tag := "", options? := some f.options } }

/-- The entity without what its code does not depend on. -/
def Entity.essence (e : Entity) : Entity where
  naming := { e.naming with generateFolder := false }
  fields := e.fields.map Field.essence
  document := .null

namespace Entity

variable (e : Entity)

@[simp] theorem fields_essence : e.essence.fields = e.fields.map Field.essence := rfl

@[simp] theorem folder_essence : e.essence.naming.folder = e.naming.folder := rfl

/-- A choice of fields that does not look at their wording. -/
theorem filter_essence (p : Field → Bool) (hp : ∀ f, p f.essence = p f) :
    e.essence.fields.filter p = (e.fields.filter p).map Field.essence := by
  have h : p ∘ Field.essence = p := funext hp
  rw [fields_essence, List.filter_map, h]

/-- What is made from each field and does not depend on its wording. -/
theorem map_essence {α : Type} (g : Field → α) (hg : ∀ f, g f.essence = g f) (fs : List Field) :
    (fs.map Field.essence).map g = fs.map g := by
  rw [List.map_map]
  exact List.map_congr_left fun f _ => hg f

theorem flatMap_essence {α : Type} (g : Field → List α) (hg : ∀ f, g f.essence = g f)
    (fs : List Field) : (fs.map Field.essence).flatMap g = fs.flatMap g := by
  rw [List.flatMap_map]
  exact congrArg (fs.flatMap ·) (funext hg)

theorem searchable_essence : e.essence.searchable = e.searchable.map Field.essence :=
  e.filter_essence _ fun _ => rfl

theorem numeric_essence : e.essence.numeric = e.numeric.map Field.essence :=
  e.filter_essence _ fun _ => rfl

theorem uses_essence (w : Widget) : e.essence.uses w = e.uses w := by
  rw [uses, uses, fields_essence, List.any_map]
  rfl

theorem pickers_essence : e.essence.pickers = e.pickers := by
  have h : e.essence.uses = e.uses := funext e.uses_essence
  rw [pickers, pickers, h]

end Entity

namespace Slice

open EntitySlice.Source

variable (e : Entity)

/-! ## The modules of the server -/

theorem model_essence : model e.essence = model e := by
  have members : indexMembers e.essence = indexMembers e := by
    rw [indexMembers, indexMembers, e.searchable_essence]
    exact Entity.map_essence _ (fun _ => rfl) _
  have index : indexSection e.essence = indexSection e := by
    rw [indexSection, indexSection, members, e.searchable_essence, List.isEmpty_map]
    rfl
  have fields : e.essence.fields.map (fun f => memberLine (fieldMember f))
      = e.fields.map fun f => memberLine (fieldMember f) :=
    Entity.map_essence _ (fun _ => rfl) _
  rw [model, model, index, fields]
  rfl

theorem controller_essence : controller e.essence = controller e := by
  have terms : searchTerms e.essence = searchTerms e := by
    rw [searchTerms, searchTerms, e.searchable_essence]
    exact Entity.map_essence _ (fun _ => rfl) _
  have search : searchLines e.essence = searchLines e := by
    rw [searchLines, searchLines, terms, e.searchable_essence, List.isEmpty_map]
  have list : listHandler e.essence = listHandler e := by
    rw [listHandler, listHandler, search]
    rfl
  have groups : groupMembers e.essence = groupMembers e := by
    rw [groupMembers, groupMembers, e.numeric_essence]
    exact congrArg _ (Entity.map_essence _ (fun _ => rfl) _)
  have summary : summaryHandler e.essence = summaryHandler e := by
    rw [summaryHandler, summaryHandler, groups]
    rfl
  rw [controller, controller, list, summary]
  rfl

theorem route_essence : route e.essence = route e := rfl

/-! ## The modules that the components share -/

theorem uiStore_essence : uiStore e.essence = uiStore e := rfl

theorem entityData_essence : entityData e.essence = entityData e := by
  have properties : entityProperties e.essence = entityProperties e := by
    rw [entityProperties, entityProperties, e.fields_essence, Entity.map_essence _ fun _ => rfl]
  have defaults : defaultMembers e.essence = defaultMembers e :=
    Entity.map_essence _ (fun _ => rfl) _
  have checks : validationLines e.essence = validationLines e :=
    Entity.flatMap_essence _ (fun _ => rfl) _
  rw [entityData, entityData, properties, defaults, checks]
  rfl

theorem listPage_essence : listPage e.essence = listPage e := rfl

/-! ## The dialogs for one record -/

theorem pickerImports_essence : pickerImports e.essence = pickerImports e := by
  rw [pickerImports, pickerImports, e.pickers_essence]

theorem addDialog_essence : addDialog e.essence = addDialog e := by
  have inputs : addInputs e.essence = addInputs e := Entity.flatMap_essence _ (fun _ => rfl) _
  rw [addDialog, addDialog, inputs, pickerImports_essence]
  rfl

theorem editDialog_essence : editDialog e.essence = editDialog e := by
  have inputs : editInputs e.essence = editInputs e := Entity.flatMap_essence _ (fun _ => rfl) _
  rw [editDialog, editDialog, inputs, pickerImports_essence]
  rfl

theorem viewDialog_essence : viewDialog e.essence = viewDialog e := by
  have details : detailList e.essence = detailList e := by
    rw [detailList, detailList, e.fields_essence, Entity.flatMap_essence _ fun _ => rfl]
  rw [viewDialog, viewDialog, details]
  rfl

theorem deleteDialog_essence : deleteDialog e.essence = deleteDialog e := rfl

/-! ## The dialogs for many records -/

theorem draftImports_essence : draftImports e.essence = draftImports e := by
  rw [draftImports, draftImports, pickerImports_essence]
  rfl

theorem bulkEditDialog_essence : bulkEditDialog e.essence = bulkEditDialog e := by
  have table : bulkEditTable e.essence = bulkEditTable e := by
    rw [bulkEditTable, bulkEditTable, e.fields_essence, Entity.map_essence _ fun _ => rfl,
      Entity.flatMap_essence bulkEditCell fun _ => rfl]
  rw [bulkEditDialog, bulkEditDialog, table, pickerImports_essence]
  rfl

theorem bulkUpdateDialog_essence : bulkUpdateDialog e.essence = bulkUpdateDialog e := by
  have choice : fieldChoice e.essence = fieldChoice e := by
    rw [fieldChoice, fieldChoice, e.fields_essence, Entity.map_essence _ fun _ => rfl]
    rfl
  have input : chosenInput e.essence = chosenInput e := Entity.flatMap_essence _ (fun _ => rfl) _
  rw [bulkUpdateDialog, bulkUpdateDialog, draftImports_essence, choice, input]
  rfl

theorem bulkDynamicUpdateDialog_essence :
    bulkDynamicUpdateDialog e.essence = bulkDynamicUpdateDialog e := by
  rw [bulkDynamicUpdateDialog, bulkDynamicUpdateDialog, draftImports_essence, e.fields_essence,
    Entity.flatMap_essence tickedInput fun _ => rfl]
  rfl

theorem bulkDeleteDialog_essence : bulkDeleteDialog e.essence = bulkDeleteDialog e := by
  have list : deletionList e.essence = deletionList e := by
    rw [deletionList, deletionList, e.fields_essence]
    cases e.fields with
    | nil => rfl
    | cons f rest => rfl
  rw [bulkDeleteDialog, bulkDeleteDialog, list]
  rfl

/-! ## The table and what belongs to it -/

theorem tableView_essence : tableView e.essence = tableView e := by
  have lines : columnLines e.essence = columnLines e := Entity.map_essence _ (fun _ => rfl) _
  have table : columns e.essence = columns e := by
    rw [columns, columns, lines]
    rfl
  rw [tableView, tableView, table]
  rfl

theorem filterDialog_essence : filterDialog e.essence = filterDialog e := rfl

theorem summaryDialog_essence : summaryDialog e.essence = summaryDialog e := by
  have table : summaryTable e.essence = summaryTable e := by
    rw [summaryTable, summaryTable, e.numeric_essence,
      Entity.map_essence summaryHeading fun _ => rfl, Entity.map_essence summaryCell fun _ => rfl]
  rw [summaryDialog, summaryDialog, table]
  rfl

theorem exportDialog_essence : exportDialog e.essence = exportDialog e := by
  have lines : headerLines e.essence = headerLines e := Entity.map_essence _ (fun _ => rfl) _
  have table : headers e.essence = headers e := by
    rw [headers, headers, lines]
    rfl
  rw [exportDialog, exportDialog, table]
  rfl

/-! ## The query client -/

/-- Groups are cut at a line of one of them. -/
theorem paragraphs_split (groups rest : List (List Line)) (before after : List Line) (l : Line) :
    paragraphs (groups ++ (before ++ l :: after) :: rest)
      = paragraphs (groups ++ [before]) ++ l :: paragraphs (after :: rest) := by
  induction groups with
  | nil =>
    cases rest with
    | nil => simp [paragraphs]
    | cons g rest => simp [paragraphs, List.intercalate_cons_cons]
  | cons g groups ih =>
    rw [List.cons_append, List.cons_append, paragraphs_cons g (by simp),
      paragraphs_cons g (by simp), ih]
    simp only [List.cons_append, List.append_assoc]

/-- The lines of the query client before the one that says where requests go. -/
def linesBeforeAddress (e : Entity) : List Line :=
  paragraphs (((queryClient e).sections.take 3).map (·.flatMap Item.lines)
    ++ [[Line.code ("export const " ++ e.naming.apiSlice ++ r" = createApi({"),
      ⟨2, .code ("reducerPath: '" ++ e.naming.apiSlice ++ "',")⟩]])

/-- The lines of the query client after the one that says where requests go. -/
def linesAfterAddress (e : Entity) : List Line :=
  paragraphs ((nest (Line.code ("tagTypes: ['" ++ e.naming.tagType ++ "'],")
      :: block r"endpoints: (builder) => ({"
        ((endpointDefinitions e.naming).flatMap (·.lines e.naming)) r"}),")
      ++ [Line.code r"});"])
    :: ((queryClient e).sections.drop 4).map (·.flatMap Item.lines))

theorem linesBeforeAddress_essence : linesBeforeAddress e.essence = linesBeforeAddress e := rfl

theorem linesAfterAddress_essence : linesAfterAddress e.essence = linesAfterAddress e := rfl

variable {e} in
/-- The query clients of entities with the same essence have the same lines around the address. -/
theorem linesAroundAddress_congr {e' : Entity} (h : e.essence = e'.essence) :
    linesBeforeAddress e = linesBeforeAddress e' ∧ linesAfterAddress e = linesAfterAddress e' := by
  constructor
  · rw [← linesBeforeAddress_essence e, h, linesBeforeAddress_essence e']
  · rw [← linesAfterAddress_essence e, h, linesAfterAddress_essence e']

/-- The line that says that requests go to an address, as it is written. -/
def addressLine (address : String) : String :=
  "  " ++ (r"baseQuery: fetchBaseQuery({ baseUrl: '" ++ address ++ r"' }),")

theorem linesText_cons (l : Line) (lines : List Line) :
    linesText (l :: lines) = l.text ++ "\n" ++ linesText lines := by
  simp [linesText, String.join_cons]

/-- **One line of the query client says where requests go**, and no other line depends on it. -/
theorem text_queryClient :
    (queryClient e).text = linesText (linesBeforeAddress e)
      ++ (addressLine e.requestAddress ++ "\n" ++ linesText (linesAfterAddress e)) := by
  have lines : (queryClient e).lines
      = linesBeforeAddress e ++ ⟨2, (baseUrlLine e).content⟩ :: linesAfterAddress e := by
    rw [linesBeforeAddress, linesAfterAddress, ← paragraphs_split]
    rfl
  have line : (⟨2, (baseUrlLine e).content⟩ : Line).text = addressLine e.requestAddress := rfl
  rw [File.text, lines, linesText_append, linesText_cons, line]

/-! ## The parts of a slice -/

/-- The parts that are made from the essence of an entity. -/
def Part.IsCode (p : Part) : Prop := p ≠ .sliceSchema ∧ p ≠ .querySlice

/-- What is in the file of a part that is there for every entity. -/
def Part.content? (e : Entity) (p : Part) : Option Content := (p.single? e).map Prod.snd

/-- Code is made from the essence of an entity. -/
theorem content?_essence {p : Part} (hp : p.IsCode) : p.content? e.essence = p.content? e := by
  have lift {f g : File} (h : f = g) : some (Content.source f) = some (Content.source g) := by
    rw [h]
  cases p with
  | sliceSchema => exact absurd rfl hp.1
  | querySlice => exact absurd rfl hp.2
  | model => exact lift (model_essence e)
  | controller => exact lift (controller_essence e)
  | route => exact lift (route_essence e)
  | uiStore => exact lift (uiStore_essence e)
  | entityData => exact lift (entityData_essence e)
  | page => exact lift (listPage_essence e)
  | add => exact lift (addDialog_essence e)
  | edit => exact lift (editDialog_essence e)
  | view => exact lift (viewDialog_essence e)
  | delete => exact lift (deleteDialog_essence e)
  | table => exact lift (tableView_essence e)
  | bulkEdit => exact lift (bulkEditDialog_essence e)
  | bulkUpdate => exact lift (bulkUpdateDialog_essence e)
  | bulkDynamicUpdate => exact lift (bulkDynamicUpdateDialog_essence e)
  | bulkDelete => exact lift (bulkDeleteDialog_essence e)
  | filter => exact lift (filterDialog_essence e)
  | summary => exact lift (summaryDialog_essence e)
  | exportData => exact lift (exportDialog_essence e)
  | pickers => rfl

end Slice

end EntitySlice
