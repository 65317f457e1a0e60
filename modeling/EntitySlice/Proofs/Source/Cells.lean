import EntitySlice.Proofs.Source.Tags

/-!
# Texts in elements

An element on one line has a text in it, or code in braces. It stands behind the tag that the
element starts with, and is read up to the tag that the element ends with. What is read in a text
from all elements with a tag is what these have in them (`readCells_text`), as long as none of them
has another element in it (`Content.IsCell`).
-/

namespace EntitySlice.Source

/-! ## Cells on lines -/

/-- What is in an element on one line. -/
def cell? (tag : String) : Content → Option String
  | .around element text => if element.tag = tag then some text else none
  | _ => none

/-- What is in the elements with a tag on lines, one after the other. -/
def cells (tag : String) (lines : List Line) : List String := readOn (cell? tag) lines

/-- What stands on a line where an element with the tag starts. -/
def mark? (tag : String) (c : Content) : Option Content :=
  if c.element?.any (·.tag = tag) then some c else none

/-- What stands on the lines where elements with a tag start. -/
def marks (tag : String) (lines : List Line) : List Content := readOn (mark? tag) lines

section Marks

variable (tag first last s : String) (el : Element) (lines more : List Line)

@[simp] theorem marks_nil : marks tag [] = [] := rfl

@[simp] theorem marks_append : marks tag (lines ++ more) = marks tag lines ++ marks tag more :=
  readOn_append lines more

@[simp] theorem marks_code_cons : marks tag (Line.code s :: lines) = marks tag lines := rfl

@[simp] theorem marks_blank_cons : marks tag (Line.blank :: lines) = marks tag lines := rfl

@[simp] theorem marks_around_cons : marks tag (around el s :: lines) =
    (if el.tag = tag then [.around el s] else []) ++ marks tag lines := by
  rw [marks, readOn_cons, around, mark?, Content.element?, Option.any_some]
  simp only [decide_eq_true_eq]
  split <;> rfl

@[simp] theorem marks_nest : marks tag (nest lines) = marks tag lines := readOn_nest lines

@[simp] theorem marks_block : marks tag (block first lines last) = marks tag lines :=
  (readOn_block first last lines).trans (List.append_nil _)

@[simp] theorem marks_element : marks tag (element el lines) =
    (if el.tag = tag then [.opening el] else []) ++ marks tag lines := by
  rw [marks, readOn_element, mark?, Content.element?, Option.any_some]
  simp only [decide_eq_true_eq]
  split <;> exact List.append_nil _

@[simp] theorem marks_code (texts : List String) : marks tag (code texts) = [] :=
  readOn_code (fun _ => rfl) rfl texts

@[simp] theorem marks_paragraphs (groups : List (List Line)) :
    marks tag (paragraphs groups) = groups.flatMap (marks tag) :=
  readOn_paragraphs rfl groups

theorem marks_map_around {α : Type} (text : α → String) (as : List α) :
    marks tag (as.map fun a => around el (text a)) =
      if el.tag = tag then as.map fun a => .around el (text a) else [] := by
  induction as with
  | nil => simp
  | cons a as ih =>
    rw [List.map_cons, marks_around_cons, ih]
    split <;> rfl

/-- Cells are among what stands where elements start. -/
theorem cells_eq_filterMap : cells tag lines = (marks tag lines).filterMap (cell? tag) := by
  have hmark (c : Content) : (mark? tag c).bind (cell? tag) = cell? tag c := by
    cases c with
    | around e text =>
      rw [mark?, cell?, Content.element?, Option.any_some]
      simp only [decide_eq_true_eq]
      split
      · next h => exact if_pos h
      · rfl
    | blank | code s | closing e => rfl
    | opening e | leaf e =>
      rw [mark?]
      split <;> rfl
  rw [cells, readOn_eq, marks, readOn_eq, List.filterMap_filterMap]
  exact congrArg (List.filterMap · _) (funext fun c => (hmark c).symm)

theorem filterMap_cell?_map_around {α : Type} (text : α → String) (as : List α) :
    (as.map fun a => Content.around el (text a)).filterMap (cell? tag) =
      if el.tag = tag then as.map text else [] := by
  induction as with
  | nil => simp
  | cons a as ih =>
    rw [List.map_cons, List.filterMap_cons, ih, cell?]
    by_cases h : el.tag = tag
    · rw [if_pos h, if_pos h, if_pos h, List.map_cons]
    · rw [if_neg h, if_neg h, if_neg h]

end Marks

/-! ## Reading -/

/-- Code in braces or a text up to the next tag, and what stands from there on. -/
def readUpToTag? : List Char → Option (List Char × List Char)
  | '\x7b' :: cs =>
    (readCode .start cs).map fun (code, rest) => ('\x7b' :: (code ++ ['\x7d']), rest)
  | cs => some (cs.takeWhile (· ≠ '<'), cs.dropWhile (· ≠ '<'))

/-- What stands up to the tag that the element ends with. -/
def readBetween? (e : Element) (cs : List Char) : Option String := do
  let (inside, rest) ← readUpToTag? cs
  let _ ← e.closingTag.toList.isPrefixOf? rest
  return String.ofList inside

/-- What is in an element, if it has the tag. -/
def readCell? (tag : String) (e : Element) (cs : List Char) : Option String :=
  if e.tag = tag then readBetween? e cs else none

/-- What is in the elements with a tag that begin a line of a text. -/
def readCells (tag s : String) : List String := readTags (readCell? tag) s

/-! ## What is read back -/

/-- Whether what is in an element is read up to the tag behind it. -/
def IsInside (text : String) : Prop :=
  (∃ code, Balanced code ∧ text = braced code) ∨
    '<' ∉ text.toList ∧ text.toList.head? ≠ some '\x7b'

/-- Whether an element is on one line and what is in it is read back. -/
def Content.IsCell : Content → Prop
  | .around _ text => IsInside text
  | _ => False

theorem readUpToTag?_append {text : String} (h : IsInside text) (rest : List Char) :
    readUpToTag? (text.toList ++ '<' :: rest) = some (text.toList, '<' :: rest) := by
  rcases h with ⟨code, hcode, rfl⟩ | ⟨hno, hhead⟩
  · have hlist : (braced code).toList ++ '<' :: rest =
        '\x7b' :: (code.toList ++ '\x7d' :: '<' :: rest) := by
      simp [braced]
    rw [hlist, readUpToTag?, readCode_append hcode]
    simp [braced]
  · have htext : readUpToTag? (text.toList ++ '<' :: rest) =
        some ((text.toList ++ '<' :: rest).takeWhile (· ≠ '<'),
          (text.toList ++ '<' :: rest).dropWhile (· ≠ '<')) := by
      cases hcs : text.toList with
      | nil => rfl
      | cons c cs =>
        rw [hcs, List.head?_cons, ne_eq, Option.some_inj] at hhead
        rw [List.cons_append]
        unfold readUpToTag?
        split
        · next heq => exact absurd (List.cons.inj heq).1 hhead
        · rfl
    obtain ⟨htake, hdrop⟩ := takeWhile_append_of_notMem hno rest
    rw [htext, htake, hdrop]

theorem readBetween?_append {text : String} (h : IsInside text) (e : Element) (rest : List Char) :
    readBetween? e ((text ++ e.closingTag).toList ++ rest) = some text := by
  have hclosing : e.closingTag.toList ++ rest = '<' :: '/' :: (e.tag.toList ++ '>' :: rest) := by
    simp [Element.closingTag]
  rw [readBetween?, String.toList_append, List.append_assoc, hclosing, readUpToTag?_append h,
    ← hclosing]
  simp only [Option.bind_eq_bind, Option.bind_some, isPrefixOf?_append]
  exact congrArg some String.ofList_toList

/-- **What is in an element is read behind its tag.** -/
theorem readCell?_behindTag {tag : String} {c : Content} (h : ∀ d ∈ mark? tag c, d.IsCell)
    (rest : List Char) :
    (c.element?.bind fun e => readCell? tag e (c.behindTag.toList ++ rest)) = cell? tag c := by
  have hmark {e : Element} (he : c.element? = some e) (htag : e.tag = tag) : c.IsCell := by
    refine h c ?_
    rw [mark?, he, if_pos (by simpa using htag)]
    rfl
  cases c with
  | blank | code s | closing e => rfl
  | opening e | leaf e => exact if_neg (hmark rfl)
  | around e text =>
    rw [cell?]
    by_cases htag : e.tag = tag
    · rw [if_pos htag]
      exact (if_pos htag).trans (readBetween?_append (hmark rfl htag) e rest)
    · rw [if_neg htag]
      exact if_neg htag

/-- **What is in the elements with a tag is read back from the text of a module.** -/
theorem readCells_text {tag : String} {f : File} (h : OnLines Content.IsMarkup f.lines)
    (hcells : ∀ c ∈ marks tag f.lines, c.IsCell) : readCells tag f.text = cells tag f.lines := by
  refine readTags_linesText fun c hc => ⟨h c hc, fun rest => readCell?_behindTag (fun d hd => ?_) _⟩
  refine hcells d ?_
  rw [marks, readOn_eq]
  exact List.mem_filterMap.mpr ⟨c, hc, hd⟩

end EntitySlice.Source
