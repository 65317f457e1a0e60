import EntitySlice.Source.File

/-!
# What stands on lines

Lines stand in blocks, elements and paragraphs, further in than they were made. What stands on them
does not depend on that (`map_content_nest`). So what is read on lines can be worked out from how
they are built (`readOn`), and so can what all of them have in common (`OnLines`) and which of them
stand around others (`Surrounds`).
-/

namespace EntitySlice.Source

/-- Groups after the first one follow it behind an empty line. -/
theorem paragraphs_cons (g : List Line) {groups : List (List Line)} (h : groups ≠ []) :
    paragraphs (g :: groups) = g ++ Line.blank :: paragraphs groups := by
  cases groups with
  | nil => exact absurd rfl h
  | cons g' groups =>
    rw [paragraphs, List.intercalate_cons_cons, List.append_assoc]
    rfl

/-- The last group comes last. -/
theorem suffix_paragraphs (groups : List (List Line)) (g : List Line) :
    g <:+ paragraphs (groups ++ [g]) := by
  induction groups with
  | nil =>
    have hself : paragraphs [g] = g := List.intercalate_singleton
    exact ⟨[], hself.symm⟩
  | cons g' groups ih =>
    rw [List.cons_append, paragraphs_cons g' (by simp)]
    exact ih.trans ((List.suffix_cons _ _).trans (List.suffix_append _ _))

section Contents

variable (first last : String) (e : Element) (lines : List Line)

/-- Indentation does not change what stands on lines. -/
@[simp] theorem map_content_nest : (nest lines).map Line.content = lines.map Line.content := by
  simp [nest, indentBy]

@[simp] theorem map_content_block : (block first lines last).map Line.content =
    .code first :: lines.map Line.content ++ [.code last] := by
  simp [block, Line.code]

@[simp] theorem map_content_element : (element e lines).map Line.content =
    .opening e :: lines.map Line.content ++ [.closing e] := by
  simp [element]

end Contents

/-! ## Reading -/

/-- What is read on lines, one after the other. -/
def readOn {α : Type} (read? : Content → Option α) (lines : List Line) : List α :=
  lines.filterMap fun l => read? l.content

section Reading

variable {α : Type} {read? : Content → Option α} (first last : String) (e : Element) (l : Line)
  (lines more : List Line)

theorem readOn_eq : readOn read? lines = (lines.map Line.content).filterMap read? := by
  rw [List.filterMap_map]
  rfl

theorem readOn_append : readOn read? (lines ++ more) = readOn read? lines ++ readOn read? more :=
  List.filterMap_append

theorem readOn_cons :
    readOn read? (l :: lines) = (read? l.content).toList ++ readOn read? lines := by
  rw [readOn, List.filterMap_cons]
  cases read? l.content <;> rfl

theorem readOn_nest : readOn read? (nest lines) = readOn read? lines := by
  rw [readOn_eq, map_content_nest, ← readOn_eq]

theorem readOn_block : readOn read? (block first lines last) =
    (read? (.code first)).toList ++ readOn read? lines ++ (read? (.code last)).toList := by
  rw [block, List.cons_append, readOn_cons, readOn_append, readOn_nest, readOn_cons,
    List.append_assoc]
  exact congrArg _ (congrArg _ (List.append_nil _))

theorem readOn_element : readOn read? (element e lines) =
    (read? (.opening e)).toList ++ readOn read? lines ++ (read? (.closing e)).toList := by
  rw [element, List.cons_append, readOn_cons, readOn_append, readOn_nest, readOn_cons,
    List.append_assoc]
  exact congrArg _ (congrArg _ (List.append_nil _))

/-- What is read on the lines of groups, if nothing is on the lines between them. -/
theorem readOn_paragraphs (hblank : read? .blank = none) (groups : List (List Line)) :
    readOn read? (paragraphs groups) = groups.flatMap (readOn read?) := by
  unfold paragraphs
  induction groups with
  | nil => rfl
  | cons g groups ih =>
    cases groups with
    | nil => rw [List.intercalate_singleton, List.flatMap_singleton]
    | cons h groups =>
      rw [List.flatMap_cons, ← ih, List.intercalate_cons_cons, readOn_append, readOn_append,
        List.append_assoc, readOn_cons, Line.blank, hblank]
      rfl

/-- What is read on the lines of a file is read on those of its items. -/
theorem File.readOn_lines (hblank : read? .blank = none) (f : File) :
    readOn read? f.lines = f.items.flatMap fun i => readOn read? i.lines := by
  have hitems (items : List Item) : readOn read? (items.flatMap Item.lines) =
      items.flatMap fun i => readOn read? i.lines := List.filterMap_flatMap
  rw [lines, readOn_paragraphs hblank, items, List.flatMap_map]
  induction f.sections with
  | nil => rfl
  | cons s sections ih =>
    rw [List.flatMap_cons, ih, hitems, List.flatten_cons, List.flatMap_append]

section Code

variable (hcode : ∀ s, read? (.code s) = none)

include hcode

/-- Nothing is read on lines of code, if it is not read in code. -/
theorem readOn_code (hblank : read? .blank = none) (texts : List String) :
    readOn read? (code texts) = [] := by
  refine List.filterMap_eq_nil_iff.mpr fun l hl => ?_
  obtain ⟨s, -, rfl⟩ := List.mem_map.mp hl
  split
  · exact hblank
  · exact hcode s

theorem readOn_imported (i : Import) : readOn read? i.lines = [] := by
  have hsingle (s : String) : readOn read? [Line.code s] = [] := by
    rw [readOn_cons, Line.code, hcode]
    rfl
  unfold Import.lines
  split
  · rw [readOn_block, hcode, hcode]
    refine List.append_eq_nil_iff.mpr ⟨List.filterMap_eq_nil_iff.mpr fun l hl => ?_, rfl⟩
    obtain ⟨n, -, rfl⟩ := List.mem_map.mp hl
    exact hcode _
  · split <;> exact hsingle _

/-- What is not read in code is read on the lines of declarations alone. -/
theorem File.readOn_declarations (hblank : read? .blank = none) (f : File) :
    readOn read? f.lines = f.declarations.flatMap fun d => readOn read? d.lines := by
  rw [File.readOn_lines hblank, declarations]
  induction f.items with
  | nil => rfl
  | cons i items ih =>
    rw [List.flatMap_cons, ih]
    cases i with
    | directive text | comment text =>
      rw [Item.lines, readOn_cons, Line.code, hcode]
      rfl
    | imported i =>
      rw [Item.lines, readOn_imported hcode]
      rfl
    | declared d => rfl

end Code

end Reading

/-! ## What all lines have -/

/-- Whether everything that stands on lines has a property, however far they are indented. -/
def OnLines (P : Content → Prop) (lines : List Line) : Prop :=
  ∀ c ∈ lines.map Line.content, P c

instance (P : Content → Prop) [DecidablePred P] (lines : List Line) : Decidable (OnLines P lines) :=
  inferInstanceAs (Decidable (∀ c ∈ lines.map Line.content, P c))

namespace OnLines

variable {P Q : Content → Prop} {lines more : List Line}

theorem imp (h : OnLines P lines) (hPQ : ∀ c, P c → Q c) : OnLines Q lines :=
  fun c hc => hPQ c (h c hc)

theorem single {l : Line} (h : P l.content) : OnLines P [l] := List.forall_mem_singleton.mpr h

theorem append (h : OnLines P lines) (hmore : OnLines P more) : OnLines P (lines ++ more) := by
  rw [OnLines, List.map_append, List.forall_mem_append]
  exact ⟨h, hmore⟩

theorem nest (h : OnLines P lines) : OnLines P (nest lines) := by
  rwa [OnLines, map_content_nest]

theorem code {texts : List String} (hblank : P .blank) (h : ∀ s ∈ texts, P (.code s)) :
    OnLines P (code texts) := by
  rw [OnLines, Source.code, List.map_map, List.forall_mem_map]
  intro s hs
  rw [Function.comp_apply]
  split
  · exact hblank
  · exact h s hs

theorem block {first last : String} (hfirst : P (.code first)) (h : OnLines P lines)
    (hlast : P (.code last)) : OnLines P (block first lines last) :=
  ((single (l := Line.code first) hfirst).append h.nest).append (single (l := Line.code last) hlast)

theorem element {e : Element} (hopening : P (.opening e)) (h : OnLines P lines)
    (hclosing : P (.closing e)) : OnLines P (element e lines) :=
  ((single (l := ⟨0, .opening e⟩) hopening).append h.nest).append
    (single (l := ⟨0, .closing e⟩) hclosing)

theorem map {α : Type} {f : α → Line} {as : List α} (h : ∀ a ∈ as, P (f a).content) :
    OnLines P (as.map f) := by
  rwa [OnLines, List.map_map, List.forall_mem_map]

theorem flatMap {α : Type} {f : α → List Line} {as : List α} (h : ∀ a ∈ as, OnLines P (f a)) :
    OnLines P (as.flatMap f) := by
  rwa [OnLines, List.map_flatMap, List.forall_mem_flatMap]

theorem paragraphs (hblank : P .blank) {groups : List (List Line)} (h : ∀ g ∈ groups, OnLines P g) :
    OnLines P (paragraphs groups) := by
  rw [Source.paragraphs]
  induction groups with
  | nil => exact fun _ hc => absurd hc List.not_mem_nil
  | cons g groups ih =>
    rw [List.forall_mem_cons] at h
    cases groups with
    | nil =>
      rw [List.intercalate_singleton]
      exact h.1
    | cons g' groups =>
      rw [List.intercalate_cons_cons]
      exact (h.1.append (single (l := Line.blank) hblank)).append (ih h.2)

/-- What all lines of the items of a file have, all lines of the file have. -/
theorem file (hblank : P .blank) {f : File} (h : ∀ i ∈ f.items, OnLines P i.lines) :
    OnLines P f.lines := by
  refine .paragraphs hblank (List.forall_mem_map.mpr fun s hs => .flatMap fun i hi => h i ?_)
  exact List.mem_flatten_of_mem hs hi

/-- Nothing is read on lines where there is nothing to read. -/
theorem readOn_eq_nil {α : Type} {read? : Content → Option α}
    (h : OnLines (fun c => read? c = none) lines) : readOn read? lines = [] := by
  rw [readOn_eq]
  exact List.filterMap_eq_nil_iff.mpr h

end OnLines

/-! ## Lines around others -/

/-- Whether lines are the given ones, with others before and after them that have a property. -/
def Surrounds (P : Content → Prop) (inner lines : List Line) : Prop :=
  ∃ before after, lines = before ++ (inner ++ after) ∧ OnLines P before ∧ OnLines P after

namespace Surrounds

variable {P Q : Content → Prop} {inner lines more : List Line}

theorem refl : Surrounds P lines lines :=
  ⟨[], [], by simp, fun _ h => absurd h List.not_mem_nil, fun _ h => absurd h List.not_mem_nil⟩

theorem imp (h : Surrounds P inner lines) (hPQ : ∀ c, P c → Q c) : Surrounds Q inner lines := by
  obtain ⟨before, after, hlines, hbefore, hafter⟩ := h
  exact ⟨before, after, hlines, hbefore.imp hPQ, hafter.imp hPQ⟩

theorem append_left (hmore : OnLines P more) (h : Surrounds P inner lines) :
    Surrounds P inner (more ++ lines) := by
  obtain ⟨before, after, rfl, hbefore, hafter⟩ := h
  exact ⟨more ++ before, after, by simp, hmore.append hbefore, hafter⟩

theorem append_right (h : Surrounds P inner lines) (hmore : OnLines P more) :
    Surrounds P inner (lines ++ more) := by
  obtain ⟨before, after, rfl, hbefore, hafter⟩ := h
  exact ⟨before, after ++ more, by simp, hbefore, hafter.append hmore⟩

theorem nest (h : Surrounds P inner lines) : Surrounds P (nest inner) (nest lines) := by
  obtain ⟨before, after, rfl, hbefore, hafter⟩ := h
  exact ⟨_, _, by simp [Source.nest, indentBy], hbefore.nest, hafter.nest⟩

theorem block {first last : String} (hfirst : P (.code first)) (h : Surrounds P inner lines)
    (hlast : P (.code last)) : Surrounds P (Source.nest inner) (block first lines last) :=
  (append_left (.single (l := Line.code first) hfirst) h.nest).append_right
    (.single (l := Line.code last) hlast)

theorem paragraphs (before after : List (List Line)) (hblank : P .blank)
    (hbefore : ∀ g ∈ before, OnLines P g) (h : Surrounds P inner lines)
    (hafter : ∀ g ∈ after, OnLines P g) :
    Surrounds P inner (paragraphs (before ++ lines :: after)) := by
  induction before with
  | nil =>
    cases after with
    | nil =>
      rw [List.nil_append, Source.paragraphs, List.intercalate_singleton]
      exact h
    | cons g after =>
      rw [List.nil_append, paragraphs_cons _ (List.cons_ne_nil _ _)]
      exact h.append_right ((OnLines.single (l := Line.blank) hblank).append
        (.paragraphs hblank hafter))
  | cons g before ih =>
    rw [List.forall_mem_cons] at hbefore
    rw [List.cons_append, paragraphs_cons _ (by simp)]
    exact append_left hbefore.1
      (append_left (.single (l := Line.blank) hblank) (ih hbefore.2))

/-- What all lines have that stand around others, and these as well, all lines have. -/
theorem onLines (h : Surrounds P inner lines) (hinner : OnLines P inner) : OnLines P lines := by
  obtain ⟨before, after, rfl, hbefore, hafter⟩ := h
  exact hbefore.append (hinner.append hafter)

/-- What is read on lines is read on those that the others stand around. -/
theorem readOn_eq {α : Type} {read? : Content → Option α}
    (h : Surrounds (fun c => read? c = none) inner lines) :
    readOn read? lines = readOn read? inner := by
  obtain ⟨before, after, rfl, hbefore, hafter⟩ := h
  rw [readOn_append, readOn_append, hbefore.readOn_eq_nil, hafter.readOn_eq_nil, List.nil_append,
    List.append_nil]

end Surrounds

end EntitySlice.Source
