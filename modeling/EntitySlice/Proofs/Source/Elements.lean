import EntitySlice.Proofs.Source.Contents

/-!
# Elements and components in lines

Which elements start on the lines of a module, and which components these are: the elements whose
tags begin with a capital letter. The builders of lines pass on what the lines inside have, so the
elements of a module can be worked out from how its lines are built.
-/

namespace EntitySlice.Source

/-! ## Elements -/

section Elements

variable (lines more : List Line) (s t : String) (e : Element)

@[simp] theorem elementsOf_nil : elementsOf [] = [] := rfl

@[simp] theorem elementsOf_append :
    elementsOf (lines ++ more) = elementsOf lines ++ elementsOf more :=
  readOn_append lines more

theorem elementsOf_cons (l : Line) : elementsOf (l :: lines) = elementsOf [l] ++ elementsOf lines :=
  elementsOf_append [l] lines

@[simp] theorem elementsOf_code_cons : elementsOf (Line.code s :: lines) = elementsOf lines := rfl

@[simp] theorem elementsOf_blank_cons : elementsOf (Line.blank :: lines) = elementsOf lines := rfl

@[simp] theorem elementsOf_leaf_cons : elementsOf (leaf e :: lines) = e :: elementsOf lines := rfl

@[simp] theorem elementsOf_around_cons :
    elementsOf (around e s :: lines) = e :: elementsOf lines := rfl

/-- Indentation does not matter. -/
@[simp] theorem elementsOf_nest : elementsOf (nest lines) = elementsOf lines := readOn_nest lines

@[simp] theorem elementsOf_block : elementsOf (block s lines t) = elementsOf lines :=
  (readOn_block s t lines).trans (List.append_nil _)

@[simp] theorem elementsOf_element : elementsOf (element e lines) = e :: elementsOf lines :=
  (readOn_element e lines).trans (List.append_nil _)

/-- Lines of code have no element. -/
@[simp] theorem elementsOf_code (texts : List String) : elementsOf (code texts) = [] :=
  readOn_code (fun _ => rfl) rfl texts

theorem elementsOf_map {α : Type} (f : α → Line) (as : List α) :
    elementsOf (as.map f) = as.flatMap fun a => elementsOf [f a] := by
  induction as with
  | nil => rfl
  | cons a as ih => rw [List.map_cons, elementsOf_cons, ih, List.flatMap_cons]

theorem elementsOf_flatMap {α : Type} (f : α → List Line) (as : List α) :
    elementsOf (as.flatMap f) = as.flatMap fun a => elementsOf (f a) := by
  induction as with
  | nil => rfl
  | cons a as ih => rw [List.flatMap_cons, elementsOf_append, ih, List.flatMap_cons]

@[simp] theorem elementsOf_paragraphs (groups : List (List Line)) :
    elementsOf (paragraphs groups) = groups.flatMap elementsOf :=
  readOn_paragraphs rfl groups

/-- The elements of a module are those of its declarations. -/
theorem File.elements_eq (f : File) :
    f.elements = f.declarations.flatMap fun d => elementsOf d.lines :=
  File.readOn_declarations (fun _ => rfl) rfl f

end Elements

/-! ## Components -/

/-- Whether a tag names a component, and not an element of the page. -/
def isComponentTag (tag : String) : Bool :=
  tag.toList.head?.any Char.isUpper

/-- The component that an element is. -/
def Element.component? (e : Element) : Option String :=
  if isComponentTag e.tag then some e.tag else none

@[simp] theorem Element.component?_mk (tag : String) (attributes : List Attribute) :
    (⟨tag, attributes⟩ : Element).component? = if isComponentTag tag then some tag else none := rfl

/-- The components in lines, in the order in which they stand there. -/
def componentsIn (lines : List Line) : List String :=
  (elementsOf lines).filterMap Element.component?

section Builders

variable (lines more : List Line) (s t : String) (e : Element)

@[simp] theorem componentsIn_nil : componentsIn [] = [] := rfl

@[simp] theorem componentsIn_append :
    componentsIn (lines ++ more) = componentsIn lines ++ componentsIn more := by
  rw [componentsIn, elementsOf, List.filterMap_append, List.filterMap_append]
  rfl

@[simp] theorem componentsIn_code_cons :
    componentsIn (Line.code s :: lines) = componentsIn lines := rfl

@[simp] theorem componentsIn_blank_cons :
    componentsIn (Line.blank :: lines) = componentsIn lines := rfl

@[simp] theorem componentsIn_leaf_cons :
    componentsIn (leaf e :: lines) = e.component?.toList ++ componentsIn lines := by
  cases h : e.component? <;> simp [componentsIn, h]

@[simp] theorem componentsIn_around_cons :
    componentsIn (around e s :: lines) = e.component?.toList ++ componentsIn lines := by
  cases h : e.component? <;> simp [componentsIn, h]

/-- Indentation does not matter. -/
@[simp] theorem componentsIn_nest : componentsIn (nest lines) = componentsIn lines := by
  rw [componentsIn, elementsOf_nest, componentsIn]

@[simp] theorem componentsIn_block : componentsIn (block s lines t) = componentsIn lines := by
  rw [componentsIn, elementsOf_block, componentsIn]

@[simp] theorem componentsIn_element :
    componentsIn (element e lines) = e.component?.toList ++ componentsIn lines := by
  cases h : e.component? <;> simp [componentsIn, h]

/-- Lines of code use no component. -/
@[simp] theorem componentsIn_code (texts : List String) : componentsIn (code texts) = [] := by
  rw [componentsIn, elementsOf_code, List.filterMap_nil]

theorem componentsIn_map {α : Type} (f : α → Line) (as : List α) :
    componentsIn (as.map f) = as.flatMap fun a => componentsIn [f a] := by
  rw [componentsIn, elementsOf_map, List.filterMap_flatMap]
  rfl

theorem componentsIn_flatMap {α : Type} (f : α → List Line) (as : List α) :
    componentsIn (as.flatMap f) = as.flatMap fun a => componentsIn (f a) := by
  rw [componentsIn, elementsOf_flatMap, List.filterMap_flatMap]
  rfl

@[simp] theorem componentsIn_paragraphs (groups : List (List Line)) :
    componentsIn (paragraphs groups) = groups.flatMap componentsIn := by
  rw [componentsIn, elementsOf_paragraphs, List.filterMap_flatMap]
  rfl

end Builders

/-! ## Modules -/

/-- The components that a module uses. -/
def File.components (f : File) : List String :=
  f.elements.filterMap Element.component?

/-- The components in a declaration. -/
def Declaration.components (d : Declaration) : List String := componentsIn d.lines

/-- The components of a module are those of its declarations. -/
theorem File.components_eq (f : File) :
    f.components = f.declarations.flatMap Declaration.components := by
  rw [components, elements_eq, List.filterMap_flatMap]
  rfl

end EntitySlice.Source
