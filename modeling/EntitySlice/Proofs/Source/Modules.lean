import EntitySlice.Proofs.FileTree.Way
import EntitySlice.Proofs.Slice.Files

/-!
# Imports and exports

What the import statements of a module ask of other modules, and how the lines of a module answer:
a constant or an interface with the word `export` before it, a list of exported constants, or the
default export. An import that starts with dots names a module by the way that leads to it from the
directory of the importing one (`Import.candidates`).
-/

namespace EntitySlice.Source

/-! ## Lines of items -/

@[simp] theorem text_code (s : String) : (Line.code s).text = s := String.empty_append

/-- A group stands in the paragraphs as it is. -/
theorem infix_paragraphs {groups : List (List Line)} {g : List Line} (hg : g ∈ groups) :
    g <:+: paragraphs groups := by
  unfold paragraphs
  induction groups with
  | nil => simp at hg
  | cons h rest ih =>
    cases rest with
    | nil =>
      obtain rfl := List.mem_singleton.mp hg
      simp
    | cons k rest =>
      rw [List.intercalate_cons_cons]
      rcases List.mem_cons.mp hg with rfl | hg
      · exact (List.prefix_append _ _).isInfix.trans (List.prefix_append _ _).isInfix
      · exact (ih hg).trans (List.suffix_append _ _).isInfix

/-- The lines of an item stand in the file as they are. -/
theorem File.infix_lines {f : File} {i : Item} (hi : i ∈ f.items) : i.lines <:+: f.lines := by
  obtain ⟨items, hs, hi⟩ := List.mem_flatten.mp hi
  have hsection : i.lines <:+: items.flatMap Item.lines :=
    List.infix_of_mem_flatten (List.mem_map_of_mem hi)
  exact hsection.trans (infix_paragraphs (List.mem_map_of_mem hs))

theorem File.mem_lines {f : File} {i : Item} (hi : i ∈ f.items) {l : Line} (hl : l ∈ i.lines) :
    l ∈ f.lines :=
  (File.infix_lines hi).subset hl

theorem File.mem_imports_iff {f : File} {i : Import} : i ∈ f.imports ↔ .imported i ∈ f.items := by
  rw [imports, List.mem_filterMap]
  constructor
  · rintro ⟨item, hm, h⟩
    cases item with
    | imported j =>
      obtain rfl := Option.some.inj h
      exact hm
    | _ => simp [Item.import?] at h
  · exact fun h => ⟨_, h, rfl⟩

/-! ## Statements -/

/-- Whether some line is the given code, however far it is indented. -/
def HasCode (lines : List Line) (s : String) : Prop :=
  ∃ n, ⟨n, .code s⟩ ∈ lines

namespace HasCode

variable {lines : List Line} {s : String}

theorem of_code {texts : List String} (h : s ∈ texts) (hne : s ≠ "") : HasCode (code texts) s :=
  ⟨0, List.mem_map.mpr ⟨s, h, by rw [if_neg hne]; rfl⟩⟩

theorem append_left (h : HasCode lines s) (more : List Line) : HasCode (lines ++ more) s := by
  obtain ⟨n, hn⟩ := h
  exact ⟨n, List.mem_append_left _ hn⟩

theorem append_right (h : HasCode lines s) (before : List Line) : HasCode (before ++ lines) s := by
  obtain ⟨n, hn⟩ := h
  exact ⟨n, List.mem_append_right _ hn⟩

theorem nest (h : HasCode lines s) : HasCode (nest lines) s := by
  obtain ⟨n, hn⟩ := h
  exact ⟨2 + n, List.mem_map.mpr ⟨_, hn, rfl⟩⟩

theorem block (h : HasCode lines s) (first last : String) :
    HasCode (block first lines last) s :=
  (h.nest.append_right [Line.code first]).append_left _

theorem paragraphs {groups : List (List Line)} (hg : lines ∈ groups) (h : HasCode lines s) :
    HasCode (paragraphs groups) s := by
  obtain ⟨n, hn⟩ := h
  exact ⟨n, mem_paragraphs hg hn⟩

theorem of_item {f : File} {i : Item} (hi : i ∈ f.items) (h : HasCode i.lines s) :
    HasCode f.lines s := by
  obtain ⟨n, hn⟩ := h
  exact ⟨n, File.mem_lines hi hn⟩

/-- A statement in the body of a constant. -/
theorem of_const {f : File} {exported : Bool} {name : String} {d : Definition}
    (hd : .declared (.const exported name d) ∈ f.items) (h : HasCode d.body s) :
    HasCode f.lines s :=
  of_item hd ((h.nest.append_right [_]).append_left _)

/-- A statement in the function that a module is for. -/
theorem of_main {f : File} {name parameters : String} {groups : List (List Line)}
    (hf : f.sections.getLast? = some [.declared (.main name parameters (Source.paragraphs groups))])
    (hg : lines ∈ groups) (h : HasCode lines s) : HasCode f.lines s :=
  of_item (List.mem_flatten.mpr ⟨_, List.mem_of_getLast? hf, List.mem_singleton_self _⟩)
    ((paragraphs hg h).block _ _)

end HasCode

/-! ## Exports -/

/-- The lines of a list that exports members of a value. -/
def exportTexts (names : List String) (source : String) : List String :=
  "export const \x7b" :: names.map (fun n => "  " ++ n ++ ",") ++ ["\x7d = " ++ source ++ ";"]

/-- The ways in which the lines of a module export a name. -/
inductive ExportedIn (lines : List String) (name : String) : Prop
  | const (rest : String) (h : "export const " ++ name ++ " = " ++ rest ∈ lines)
  | interface (h : "export interface " ++ name ++ " \x7b" ∈ lines)
  | member (names : List String) (source : String) (hn : name ∈ names)
    (h : exportTexts names source <:+: lines)

/-- Whether the lines of a module have a default export. -/
def HasDefault (lines : List String) : Prop :=
  ∃ rest, "export default " ++ rest ∈ lines

/-- Whether the lines of a module export all that an import asks for. -/
structure Import.ServedBy (i : Import) (lines : List String) : Prop where
  default : i.default? ≠ none → HasDefault lines
  names : ∀ n ∈ i.names, ExportedIn lines n

theorem map_text_members (names : List String) (source : String) :
    (Declaration.members names source).lines.map Line.text = exportTexts names source := by
  have hname (n : String) : Line.text ⟨2, .code (n ++ ",")⟩ = "  " ++ n ++ "," :=
    (String.append_assoc ..).symm
  have hend (s : String) : Line.text ⟨0, .code s⟩ = s := text_code s
  simp [Declaration.lines, block, nest, indentBy, exportTexts, Function.comp_def, hname, hend,
    Line.code]

namespace File

variable {f : File} {name : String}

/-- A line of an item, as it is written. -/
theorem mem_texts {i : Item} (hi : i ∈ f.items) {s : String} (hs : Line.code s ∈ i.lines) :
    s ∈ f.lines.map Line.text :=
  List.mem_map.mpr ⟨_, mem_lines hi hs, text_code s⟩

theorem exportedIn_const {d : Definition} (h : .declared (.const true name d) ∈ f.items)
    (hd : ∃ rest, d.first = " = " ++ rest) : ExportedIn (f.lines.map Line.text) name := by
  obtain ⟨rest, hd⟩ := hd
  refine .const rest (mem_texts h ?_)
  rw [Item.lines, Declaration.lines, Definition.lines, hd]
  simp [Declaration.exportWord, String.append_assoc]

theorem exportedIn_interface {properties : List Line}
    (h : .declared (.interface true name properties) ∈ f.items) :
    ExportedIn (f.lines.map Line.text) name := by
  refine .interface (mem_texts h ?_)
  rw [Item.lines, Declaration.lines, block]
  simp [Declaration.exportWord]

theorem exportedIn_members {names : List String} {source : String}
    (h : .declared (.members names source) ∈ f.items) (hn : name ∈ names) :
    ExportedIn (f.lines.map Line.text) name := by
  refine .member names source hn ?_
  rw [← map_text_members]
  exact (infix_lines h).map Line.text

theorem hasDefault_main {parameters : String} {body : List Line}
    (h : .declared (.main name parameters body) ∈ f.items) :
    HasDefault (f.lines.map Line.text) := by
  have hword : "export default function " = "export default " ++ "function " := rfl
  refine ⟨"function " ++ name ++ "(" ++ parameters ++ ") \x7b", mem_texts h ?_⟩
  rw [Item.lines, Declaration.lines, block, hword]
  simp only [String.append_assoc]
  exact List.mem_append_left _ List.mem_cons_self

theorem hasDefault_value {expression : String}
    (h : .declared (.value expression) ∈ f.items) : HasDefault (f.lines.map Line.text) := by
  refine ⟨expression ++ ";", mem_texts h ?_⟩
  rw [Item.lines, Declaration.lines]
  simp [String.append_assoc]

/-- A file whose last section is the function that the module is for. -/
theorem hasDefault_of_getLast? {parameters : String} {body : List Line}
    (h : f.sections.getLast? = some [.declared (.main name parameters body)]) :
    HasDefault (f.lines.map Line.text) :=
  hasDefault_main (List.mem_flatten.mpr ⟨_, List.mem_of_getLast? h, List.mem_singleton_self _⟩)

end File

/-! ## Where imports lead to -/

/-- Whether the import names a module by the way to it. -/
def Import.isRelative (i : Import) : Bool :=
  "./".toList.isPrefixOf i.source.toList || "../".toList.isPrefixOf i.source.toList

/-- What the names of files with modules end in. -/
def moduleEndings : List String := [".ts", ".tsx"]

/-- The places of the files that an import can mean in the directory at a place. -/
def candidates (place : List String) (source : String) : List (List String) :=
  moduleEndings.map fun ending => placeFrom place (⟨source ++ ending⟩ : Path).components

/-- Whether a way that starts at a place never goes above where that place begins. -/
def staysBelow (place : List String) : List PathComponent → Bool
  | [] => true
  | c :: cs => c ≠ .root && (c ≠ .up || place ≠ []) && staysBelow (c.step place) cs

/-- Such a way leads from a place below another one to a place below the other one. -/
theorem placeFrom_append_of_staysBelow {place : List String} {cs : List PathComponent}
    (h : staysBelow place cs = true) (above : List String) :
    placeFrom (above ++ place) cs = above ++ placeFrom place cs := by
  induction cs generalizing place with
  | nil => rfl
  | cons c cs ih =>
    -- A step up is the only one that could leave the place, and it is taken inside it.
    rw [staysBelow, Bool.and_eq_true, Bool.and_eq_true] at h
    obtain ⟨⟨hroot, hup⟩, hrest⟩ := h
    have hstep : c.step (above ++ place) = above ++ c.step place := by
      cases c with
      | root => simp at hroot
      | here => rfl
      | name n => simp [PathComponent.step]
      | up =>
        have hne : place ≠ [] := by simpa using hup
        simp [PathComponent.step, List.dropLast_append_of_ne_nil hne]
    rw [placeFrom_cons, placeFrom_cons, hstep, ih hrest]

end EntitySlice.Source
