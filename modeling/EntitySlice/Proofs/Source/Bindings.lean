import EntitySlice.Proofs.Source.TextLines

/-!
# The names that a module binds

Which names a module binds at its top level can be read from its lines: a statement there starts at
the margin, with a keyword or with `import`, and the lines of what it declares are indented. The
names that are read so are those that the items of the file say they bind (`boundNames_lines`), as
long as they are words and nothing around them can be taken for one (`Item.Regular`).
-/

namespace EntitySlice.Source

/-! ## Words -/

/-- Whether a character stands in no word. -/
def isGap (c : Char) : Bool := !isIdentifierPart c

/-- The words in a text: the longest runs of characters of identifiers. -/
def wordsIn (s : String) : List String :=
  ((s.toList.splitOnP isGap).filter (· ≠ [])).map String.ofList

/-- Whether a text is one word. -/
structure IsWord (s : String) : Prop where
  ne_nil : s.toList ≠ []
  parts : ∀ c ∈ s.toList, isIdentifierPart c = true

instance (s : String) : Decidable (IsWord s) :=
  decidable_of_iff (s.toList ≠ [] ∧ s.toList.all isIdentifierPart = true)
    ⟨fun h => ⟨h.1, List.all_eq_true.mp h.2⟩, fun h => ⟨h.ne_nil, List.all_eq_true.mpr h.parts⟩⟩

/-- Whether a text starts outside of words. -/
def StartsApart (s : String) : Prop := s.toList.head?.any isGap = true

/-- Whether a text ends outside of words. -/
def EndsApart (s : String) : Prop := s.toList.getLast?.any isGap = true

instance (s : String) : Decidable (StartsApart s) := inferInstanceAs (Decidable (_ = _))

instance (s : String) : Decidable (EndsApart s) := inferInstanceAs (Decidable (_ = _))

theorem wordsIn_of_isWord {s : String} (h : IsWord s) : wordsIn s = [s] := by
  have hparts : ∀ c ∈ s.toList, isGap c = false := fun c hc => by rw [isGap, h.parts c hc]; rfl
  rw [wordsIn, List.splitOnP_eq_singleton hparts]
  simp [h.ne_nil]

theorem StartsApart.append {s : String} (h : StartsApart s) (t : String) :
    StartsApart (s ++ t) := by
  rw [StartsApart, Option.any_eq_true] at h ⊢
  obtain ⟨c, hc, hgap⟩ := h
  exact ⟨c, by rw [String.toList_append, List.head?_append, hc]; rfl, hgap⟩

/-- A text that starts outside of words ends every word before it. -/
theorem wordsIn_append_of_startsApart (s : String) {t : String} (h : StartsApart t) :
    wordsIn (s ++ t) = wordsIn s ++ wordsIn t := by
  rw [StartsApart, Option.any_eq_true] at h
  obtain ⟨c, hc, hgap⟩ := h
  obtain ⟨rest, hrest⟩ := List.head?_eq_some_iff.mp hc
  have hnil : t.toList.splitOnP isGap = [] :: rest.splitOnP isGap := by
    rw [hrest]
    exact List.splitOnP_append_cons [] rest hgap
  rw [wordsIn, wordsIn, wordsIn, hnil, String.toList_append, hrest,
    List.splitOnP_append_cons _ rest hgap]
  simp

/-- No word goes on behind a text that ends outside of words. -/
theorem wordsIn_append_of_endsApart {s : String} (h : EndsApart s) (t : String) :
    wordsIn (s ++ t) = wordsIn s ++ wordsIn t := by
  rw [EndsApart, Option.any_eq_true] at h
  obtain ⟨c, hc, hgap⟩ := h
  obtain ⟨before, hbefore⟩ := List.getLast?_eq_some_iff.mp hc
  rw [wordsIn, wordsIn, wordsIn, String.toList_append, hbefore, List.append_assoc,
    List.singleton_append, List.splitOnP_append_cons _ _ hgap, List.splitOnP_append_cons _ _ hgap]
  simp

theorem isWord_append {s t : String} (hs : IsWord s)
    (ht : ∀ c ∈ t.toList, isIdentifierPart c = true) : IsWord (s ++ t) where
  ne_nil := by simp [hs.ne_nil]
  parts := by
    rw [String.toList_append, List.forall_mem_append]
    exact ⟨hs.parts, ht⟩

/-- A word is not followed by another one without a gap. -/
theorem wordsIn_append_of_isWord {s t : String} (h : IsWord s) (ht : StartsApart t) :
    wordsIn (s ++ t) = s :: wordsIn t := by
  rw [wordsIn_append_of_startsApart s ht, wordsIn_of_isWord h]
  rfl

/-- A text does not start outside of words if its beginning is a word. -/
theorem not_startsApart_append {s : String} (h : s.toList.head?.any isIdentifierPart = true)
    (t : String) : ¬StartsApart (s ++ t) := by
  obtain ⟨c, hc, hpart⟩ := (Option.any_eq_true ..).mp h
  have hhead : (s ++ t).toList.head? = some c := by
    rw [String.toList_append, List.head?_append, hc]
    rfl
  rw [StartsApart, hhead, Option.any_some, isGap, hpart]
  exact Bool.false_ne_true

/-- The words of a list are those of its texts. -/
theorem wordsIn_intercalate (texts : List String) :
    wordsIn (", ".intercalate texts) = texts.flatMap wordsIn := by
  induction texts with
  | nil => rfl
  | cons t texts ih =>
    cases texts with
    | nil => simp
    | cons u texts =>
      have hgap : StartsApart (", " ++ ", ".intercalate (u :: texts)) :=
        StartsApart.append (by decide) _
      rw [String.intercalate_cons_cons, String.append_assoc, wordsIn_append_of_startsApart _ hgap,
        wordsIn_append_of_endsApart (by decide), ih]
      rfl

theorem wordsIn_inBraces (texts : List String) :
    wordsIn (inBraces texts) = texts.flatMap wordsIn := by
  have hbraces : wordsIn "\x7b " = [] ∧ wordsIn " \x7d" = [] := by decide
  rw [inBraces, wordsIn_append_of_startsApart _ (by decide),
    wordsIn_append_of_endsApart (by decide), wordsIn_intercalate, hbraces.1, hbraces.2]
  simp

theorem flatMap_wordsIn {texts : List String} (h : ∀ t ∈ texts, IsWord t) :
    texts.flatMap wordsIn = texts := by
  rw [List.flatMap_def, List.map_congr_left fun t ht => wordsIn_of_isWord (h t ht)]
  exact List.map_eq_flatMap.symm.trans (List.map_id _)

/-! ## Reading -/

/-- The words that can stand before the keyword of a declaration. -/
def modifiers : List String := ["export", "default", "async"]

/-- The words that a declaration starts with. -/
def keywords : List String := ["const", "type", "interface", "function"]

/-- The name that a statement declares, from its words. -/
def declaredName (words : List String) : List String :=
  match words.dropWhile (modifiers.contains ·) with
  | keyword :: name :: _ => if keywords.contains keyword then [name] else []
  | _ => []

/-- What stands before the first quote. -/
def beforeQuote (s : String) : String := String.ofList (s.toList.takeWhile (· ≠ '\''))

/-- The names that the first line of a statement binds. -/
def statementNames (line : String) : List String :=
  if StartsApart line then []
  else if (wordsIn line).head? = some "import" then (wordsIn (beforeQuote line)).tail.dropLast
  else declaredName (wordsIn line)

/-- The first lines of statements that bind a name on each of the lines inside. -/
def listStarts : List String := ["import \x7b", "export const \x7b"]

/-- The names that lines bind; `listing` is whether they start inside a list of names. -/
def boundAfter (listing : Bool) : List String → List String
  | [] => []
  | line :: lines =>
    if listing then
      if line.toList.head? = some ' ' then wordsIn line ++ boundAfter true lines
      else boundAfter false lines
    else statementNames line ++ boundAfter (listStarts.contains line) lines

/-- The names that the lines of a module bind at its top level. -/
def boundNames (lines : List String) : List String := boundAfter false lines

/-! ## Lines that bind nothing -/

theorem boundAfter_of_startsApart (lines : List String) (h : ∀ l ∈ lines, l = "" ∨ StartsApart l)
    (rest : List String) : boundAfter false (lines ++ rest) = boundAfter false rest := by
  induction lines with
  | nil => rfl
  | cons l lines ih =>
    rw [List.forall_mem_cons] at h
    have hstarts : ∀ s ∈ listStarts, s ≠ "" ∧ ¬StartsApart s := by decide
    have hlist : listStarts.contains l = false := by
      rw [Bool.eq_false_iff, ne_eq, List.contains_iff_mem]
      intro hl
      rcases h.1 with h0 | h0
      · exact (hstarts l hl).1 h0
      · exact (hstarts l hl).2 h0
    have hnames : statementNames l = [] := by
      rcases h.1 with rfl | h0
      · decide
      · exact if_pos h0
    rw [List.cons_append, boundAfter, if_neg Bool.false_ne_true, hlist, hnames, ih h.2]
    rfl

/-- The lines inside of a block start with blanks. -/
theorem startsApart_of_mem_nest {lines : List Line} {l : Line} (h : l ∈ nest lines) :
    l.text = "" ∨ StartsApart l.text := by
  obtain ⟨⟨n, content⟩, -, rfl⟩ := List.mem_map.mp h
  have hmargin : StartsApart (String.ofList (List.replicate (2 + n) ' ')) := by
    rw [StartsApart, String.toList_ofList, Nat.add_comm, List.replicate_succ]
    rfl
  cases content with
  | blank => exact .inl rfl
  | _ => exact .inr (hmargin.append _)

theorem boundAfter_nest (lines : List Line) (rest : List String) :
    boundAfter false ((nest lines).map Line.text ++ rest) = boundAfter false rest := by
  refine boundAfter_of_startsApart _ (fun l hl => ?_) rest
  obtain ⟨k, hk, rfl⟩ := List.mem_map.mp hl
  exact startsApart_of_mem_nest hk

/-! ## Statements -/

/-- A name on a line of a list is the only word there. -/
theorem wordsIn_listed {name : String} (h : IsWord name) :
    wordsIn ("  " ++ (name ++ ",")) = [name] := by
  have hgaps : wordsIn "  " = [] ∧ wordsIn "," = [] := by decide
  rw [wordsIn_append_of_endsApart (by decide), wordsIn_append_of_isWord h (by decide), hgaps.1,
    hgaps.2]
  rfl

/-- The names on the lines of a list are read one after the other. -/
theorem boundAfter_list {names : List String} (h : ∀ n ∈ names, IsWord n) {last : String}
    (hlast : last.toList.head? ≠ some ' ') (rest : List String) :
    boundAfter true ((nest (names.map fun n => Line.code (n ++ ","))).map Line.text
      ++ last :: rest) = names ++ boundAfter false rest := by
  induction names with
  | nil => simp [nest, indentBy, boundAfter, hlast]
  | cons n names ih =>
    rw [List.forall_mem_cons] at h
    have htext : Line.text ⟨2, .code (n ++ ",")⟩ = "  " ++ (n ++ ",") := rfl
    have hhead : ("  " ++ (n ++ ",")).toList.head? = some ' ' := by simp
    have hih := ih h.2
    simp only [nest, indentBy, List.map_cons, Line.code, List.cons_append, htext] at hih ⊢
    rw [boundAfter, if_pos rfl, if_pos hhead, wordsIn_listed h.1]
    exact congrArg (n :: ·) hih

/-- A statement binds the name behind its keyword. -/
theorem statementNames_of_words {line keyword name : String} {before more : List String}
    (happart : ¬StartsApart line) (hbefore : ∀ w ∈ before, w ∈ modifiers)
    (hkeyword : keyword ∈ keywords) (hwords : wordsIn line = before ++ keyword :: name :: more) :
    statementNames line = [name] ∧ line ∉ listStarts := by
  have hnot : ∀ w ∈ keywords, modifiers.contains w = false := by decide
  have hdrop : (wordsIn line).dropWhile (modifiers.contains ·) = keyword :: name :: more := by
    rw [hwords, List.dropWhile_append_of_pos fun w hw => List.contains_iff_mem.mpr (hbefore w hw),
      List.dropWhile_cons_of_neg (by rw [hnot _ hkeyword]; exact Bool.false_ne_true)]
  constructor
  · have himport : (wordsIn line).head? ≠ some "import" := by
      have hwords' : ∀ w ∈ modifiers ++ keywords, w ≠ "import" := by decide
      rw [hwords]
      cases before with
      | nil => simpa using hwords' _ (List.mem_append_right _ hkeyword)
      | cons w before => simpa using hwords' _ (List.mem_append_left _ (hbefore w (by simp)))
    rw [statementNames, if_neg happart, if_neg himport, declaredName, hdrop]
    exact if_pos (List.contains_iff_mem.mpr hkeyword)
  · -- The first line of a list has a keyword and no name behind it.
    intro hmem
    have hshort : ∀ s ∈ listStarts,
        ((wordsIn s).dropWhile (modifiers.contains ·)).length = 1 := by decide
    have hlength := hshort line hmem
    rw [hdrop] at hlength
    simp at hlength

/-- A statement that starts with another word binds nothing. -/
theorem statementNames_of_other {line word : String} {before more : List String}
    (hbefore : ∀ w ∈ before, w ∈ modifiers) (hword : word ∉ "import" :: modifiers ++ keywords)
    (hwords : wordsIn line = before ++ word :: more) :
    statementNames line = [] ∧ line ∉ listStarts := by
  rw [List.mem_append, List.mem_cons, not_or, not_or] at hword
  obtain ⟨⟨himport, hmodifier⟩, hkeyword⟩ := hword
  have hdrop : (wordsIn line).dropWhile (modifiers.contains ·) = word :: more := by
    rw [hwords, List.dropWhile_append_of_pos fun w hw => List.contains_iff_mem.mpr (hbefore w hw),
      List.dropWhile_cons_of_neg (by rwa [List.contains_iff_mem])]
  constructor
  · have hhead : (wordsIn line).head? ≠ some "import" := by
      rw [hwords]
      cases before with
      | nil => simpa using himport
      | cons w before =>
        have hmodifiers : "import" ∉ modifiers := by decide
        have hw := ne_of_mem_of_not_mem (hbefore w (by simp)) hmodifiers
        simpa using hw
    by_cases hstart : StartsApart line
    · exact if_pos hstart
    · rw [statementNames, if_neg hstart, if_neg hhead, declaredName, hdrop]
      cases more with
      | nil => rfl
      | cons name more => exact if_neg (by rwa [List.contains_iff_mem])
  · intro hmem
    have hstarts : ∀ s ∈ listStarts, ∃ w ∈ "import" :: keywords,
        ((wordsIn s).dropWhile (modifiers.contains ·)).head? = some w := by decide
    obtain ⟨w, hw, hhead⟩ := hstarts line hmem
    rw [hdrop] at hhead
    obtain rfl := Option.some.inj hhead
    exact (List.mem_cons.mp hw).elim himport hkeyword

/-- What stands before the name in the first line of a declaration. -/
def leads : List String :=
  ["const ", "export const ", "type ", "export type ", "interface ", "export interface ",
    "export default function ", "export async function "]

theorem statement_of_mem_leads {lead name rest : String} (hlead : lead ∈ leads)
    (hname : IsWord name) (hrest : StartsApart rest) :
    statementNames (lead ++ name ++ rest) = [name] ∧ lead ++ name ++ rest ∉ listStarts := by
  have hleads : ∀ lead ∈ leads, EndsApart lead ∧ lead.toList.head?.any isIdentifierPart = true ∧
      (∀ w ∈ (wordsIn lead).dropLast, w ∈ modifiers) ∧
        ∃ keyword ∈ keywords, (wordsIn lead).getLast? = some keyword := by
    decide
  obtain ⟨hends, hstarts, hbefore, keyword, hkeyword, hlast⟩ := hleads lead hlead
  have hapart : ¬StartsApart (lead ++ name ++ rest) := by
    rw [String.append_assoc]
    exact not_startsApart_append hstarts _
  obtain ⟨before, hwords⟩ := List.getLast?_eq_some_iff.mp hlast
  rw [hwords, List.dropLast_concat] at hbefore
  have hline : wordsIn (lead ++ name ++ rest) = before ++ keyword :: name :: wordsIn rest := by
    rw [String.append_assoc, wordsIn_append_of_endsApart hends,
      wordsIn_append_of_isWord hname hrest, hwords, List.append_assoc]
    rfl
  exact statementNames_of_words hapart hbefore hkeyword hline

/-! ## Items -/

/-- Whether nothing around the names of a declaration can be taken for a name. -/
def Declaration.Regular : Declaration → Prop
  | const _ _ d => StartsApart d.first ∧ ∀ l ∈ d.last?, StartsApart l
  | value s | effect s =>
    ∃ word rest, s = word ++ "." ++ rest ∧ IsWord word ∧ word ∉ "import" :: modifiers ++ keywords
  | _ => True

/-- Whether nothing around the names of an import can be taken for a name. -/
structure Import.Regular (i : Import) : Prop where
  tall : i.tall = true → i.default? = none
  source : '\'' ∉ i.source.toList

/-- Whether nothing around the names of an item can be taken for a name. -/
def Item.Regular : Item → Prop
  | imported i => i.Regular
  | declared d => d.Regular
  | _ => True

@[simp] theorem regular_directive (text : String) : (Item.directive text).Regular := trivial

@[simp] theorem regular_comment (text : String) : (Item.comment text).Regular := trivial

@[simp] theorem regular_imported {i : Import} :
    (Item.imported i).Regular ↔ i.Regular := Iff.rfl

@[simp] theorem regular_named (names : List String) (source : String) :
    (Import.named names source).Regular ↔ '\'' ∉ source.toList :=
  ⟨fun h => h.source, fun h => ⟨fun htall => absurd htall Bool.false_ne_true, h⟩⟩

@[simp] theorem regular_byDefault (name source : String) :
    (Import.byDefault name source).Regular ↔ '\'' ∉ source.toList :=
  ⟨fun h => h.source, fun h => ⟨fun htall => absurd htall Bool.false_ne_true, h⟩⟩

@[simp] theorem regular_declared {d : Declaration} : (Item.declared d).Regular ↔ d.Regular :=
  Iff.rfl

@[simp] theorem regular_const {exported : Bool} {name : String} {d : Definition} :
    (Declaration.const exported name d).Regular ↔
      StartsApart d.first ∧ ∀ l ∈ d.last?, StartsApart l := Iff.rfl

theorem boundAfter_statement {line : String} {names : List String}
    (h : statementNames line = names ∧ line ∉ listStarts) (rest : List String) :
    boundAfter false (line :: rest) = names ++ boundAfter false rest := by
  have hlist : listStarts.contains line = false := by
    rw [Bool.eq_false_iff, ne_eq, List.contains_iff_mem]
    exact h.2
  rw [boundAfter, if_neg Bool.false_ne_true, h.1, hlist]

/-- A declaration whose first line has one of the leads, with the lines inside and a last one. -/
theorem boundAfter_block {lead name : String} (hlead : lead ∈ leads) (hname : IsWord name)
    (more : String) (hmore : StartsApart more) (body : List Line) (last? : Option String)
    (hlast : ∀ l ∈ last?, StartsApart l) (rest : List String) :
    boundAfter false ((Line.code (lead ++ name ++ more) :: nest body
      ++ last?.toList.map Line.code).map Line.text ++ rest) = name :: boundAfter false rest := by
  have hfirst := statement_of_mem_leads hlead hname hmore
  have hend : boundAfter false (last?.toList ++ rest) = boundAfter false rest :=
    boundAfter_of_startsApart _ (fun l hl => .inr (hlast l (Option.mem_toList.mp hl))) rest
  have htexts : (last?.toList.map Line.code).map Line.text = last?.toList := by
    rw [List.map_map]
    exact (List.map_congr_left fun l _ => text_code l).trans (List.map_id _)
  rw [List.map_append, htexts, List.map_cons, text_code, List.append_assoc, List.cons_append,
    boundAfter_statement hfirst, boundAfter_nest, hend]
  rfl

/-- The first line of a list of names, the names, and its last line. -/
theorem boundAfter_names {first last : String} (hfirst : first ∈ listStarts) {names : List String}
    (h : ∀ n ∈ names, IsWord n) (hlast : last.toList.head? ≠ some ' ') (rest : List String) :
    boundAfter false ((block first (names.map fun n => Line.code (n ++ ",")) last).map Line.text
      ++ rest) = names ++ boundAfter false rest := by
  have hnone : ∀ s ∈ listStarts, statementNames s = [] := by decide
  have hlist : listStarts.contains first = true := List.contains_iff_mem.mpr hfirst
  rw [block, List.map_append, List.map_cons, text_code, List.map_singleton, text_code,
    List.append_assoc, List.cons_append, boundAfter, if_neg Bool.false_ne_true,
    hnone first hfirst, hlist, List.nil_append, List.singleton_append, boundAfter_list h hlast]

theorem boundAfter_function {lead name : String} (hlead : lead ∈ leads) (hname : IsWord name)
    (parameters : String) (body : List Line) (rest : List String) :
    boundAfter false ((block (lead ++ name ++ "(" ++ parameters ++ ") \x7b") body "\x7d").map
      Line.text ++ rest) = name :: boundAfter false rest := by
  have hmore : StartsApart ("(" ++ (parameters ++ ") \x7b")) := StartsApart.append (by decide) _
  have hline : lead ++ name ++ "(" ++ parameters ++ ") \x7b" =
      lead ++ name ++ ("(" ++ (parameters ++ ") \x7b")) := by
    simp only [String.append_assoc]
  rw [hline]
  exact boundAfter_block hlead hname _ hmore body (some "\x7d") (by simp; decide) rest

theorem boundAfter_declared {d : Declaration} (hbinds : ∀ n ∈ d.binds, IsWord n)
    (hd : d.Regular) (rest : List String) :
    boundAfter false (d.lines.map Line.text ++ rest) = d.binds ++ boundAfter false rest := by
  cases d with
  | const exported name d =>
    have hname := hbinds name List.mem_cons_self
    obtain ⟨hfirst, hlast⟩ := hd
    have hlead : Declaration.exportWord exported ++ "const " ∈ leads := by
      cases exported <;> decide
    exact boundAfter_block hlead hname _ hfirst d.body d.last? hlast rest
  | members names source =>
    exact boundAfter_names (by decide) hbinds (by simp) rest
  | type exported name definition =>
    have hlead : Declaration.exportWord exported ++ "type " ∈ leads := by
      cases exported <;> decide
    have hmore : StartsApart (" = " ++ (definition ++ ";")) := StartsApart.append (by decide) _
    have hline : Declaration.exportWord exported ++ "type " ++ name ++ " = " ++ definition ++ ";" =
        Declaration.exportWord exported ++ "type " ++ name ++ (" = " ++ (definition ++ ";")) := by
      simp only [String.append_assoc]
    rw [Declaration.lines, hline]
    exact boundAfter_block hlead (hbinds name List.mem_cons_self) _ hmore [] none (by simp) rest
  | interface exported name properties =>
    have hlead : Declaration.exportWord exported ++ "interface " ∈ leads := by
      cases exported <;> decide
    exact boundAfter_block hlead (hbinds name List.mem_cons_self) " \x7b" (by decide) properties
      (some "\x7d") (by simp; decide) rest
  | main name parameters body =>
    exact boundAfter_function (by decide) (hbinds name List.mem_cons_self) parameters body rest
  | handler name parameters body =>
    exact boundAfter_function (by decide) (hbinds name List.mem_cons_self) parameters body rest
  | value expression =>
    obtain ⟨word, more, rfl, hword, hother⟩ := hd
    have hwords : wordsIn ("export default " ++ (word ++ ("." ++ more ++ ";"))) =
        ["export", "default"] ++ word :: wordsIn ("." ++ more ++ ";") := by
      rw [wordsIn_append_of_endsApart (by decide),
        wordsIn_append_of_isWord hword ((StartsApart.append (by decide) _).append _)]
      rfl
    have hnames := statementNames_of_other (by decide) hother hwords
    rw [Declaration.lines]
    simp only [List.map_cons, List.map_nil, text_code, List.cons_append, List.nil_append,
      String.append_assoc] at hnames ⊢
    exact boundAfter_statement hnames rest
  | effect statement =>
    obtain ⟨word, more, rfl, hword, hother⟩ := hd
    have hwords : wordsIn (word ++ ("." ++ more)) = [] ++ word :: wordsIn ("." ++ more) :=
      wordsIn_append_of_isWord hword (StartsApart.append (by decide) _)
    have hnames := statementNames_of_other (by simp) hother hwords
    rw [Declaration.lines]
    simp only [List.map_cons, List.map_nil, text_code, List.cons_append, List.nil_append,
      String.append_assoc] at hnames ⊢
    exact boundAfter_statement hnames rest

/-- An import binds the words before the last one of its clause, which is `from`. -/
theorem statementNames_import {clause : String} (h : '\'' ∉ clause.toList) (rest : String) :
    statementNames ("import " ++ clause ++ "'" ++ rest) = (wordsIn clause).dropLast ∧
      "import " ++ clause ++ "'" ++ rest ∉ listStarts := by
  have himport : wordsIn "import " = ["import"] := by decide
  constructor
  · have hstart : ¬StartsApart ("import " ++ clause ++ "'" ++ rest) := by
      rw [String.append_assoc, String.append_assoc]
      exact not_startsApart_append (by decide) _
    have hhead : (wordsIn ("import " ++ clause ++ "'" ++ rest)).head? = some "import" := by
      rw [String.append_assoc, String.append_assoc, wordsIn_append_of_endsApart (by decide),
        himport]
      rfl
    have hbefore : beforeQuote ("import " ++ clause ++ "'" ++ rest) = "import " ++ clause := by
      have hnone : '\'' ∉ ("import " ++ clause).toList := by
        rw [String.toList_append, List.mem_append, not_or]
        exact ⟨by decide, h⟩
      have hpos : ∀ c ∈ ("import " ++ clause).toList, decide (c ≠ '\'') = true := fun c hc =>
        decide_eq_true (ne_of_mem_of_not_mem hc hnone)
      have hrest : ("'" ++ rest).toList.takeWhile (· ≠ '\'') = [] := by simp
      rw [beforeQuote, String.append_assoc, String.toList_append, List.takeWhile_append_of_pos hpos,
        hrest, List.append_nil, String.ofList_toList]
    rw [statementNames, if_neg hstart, if_pos hhead, hbefore,
      wordsIn_append_of_endsApart (by decide), himport]
    rfl
  · intro hmem
    have hquote : ∀ s ∈ listStarts, '\'' ∉ s.toList := by decide
    exact hquote _ hmem (by simp)

/-- The words of a clause are the names that are bound. -/
theorem wordsIn_clause {i : Import} (h : ∀ n ∈ i.binds, IsWord n) :
    wordsIn i.clause = i.binds := by
  rw [Import.binds, List.forall_mem_append] at h
  have hnames : (if i.names.isEmpty then [] else [inBraces i.names]).flatMap wordsIn = i.names := by
    split
    · next hempty => rw [List.isEmpty_iff.mp hempty]; rfl
    · rw [List.flatMap_singleton, wordsIn_inBraces, flatMap_wordsIn h.2]
  rw [Import.clause, wordsIn_intercalate, List.flatMap_append, hnames, flatMap_wordsIn h.1,
    Import.binds]

theorem quote_notMem_clause {i : Import} (h : ∀ n ∈ i.binds, IsWord n) :
    '\'' ∉ i.clause.toList := by
  have hword : ∀ n ∈ i.binds, '\'' ∉ n.toList := fun n hn hc =>
    absurd ((h n hn).parts _ hc) (by decide)
  rw [Import.binds, List.forall_mem_append] at hword
  refine notMem_intercalate (by decide) (List.forall_mem_append.mpr ⟨hword.1, ?_⟩)
  split
  · simp
  · rw [List.forall_mem_singleton, inBraces, String.toList_append, String.toList_append,
      List.mem_append, List.mem_append, not_or, not_or]
    exact ⟨⟨by decide, notMem_intercalate (by decide) hword.2⟩, by decide⟩

theorem boundAfter_imported {i : Import} (h : ∀ n ∈ i.binds, IsWord n)
    (htall : i.tall → i.default? = none) (rest : List String) :
    boundAfter false (i.lines.map Line.text ++ rest) = i.binds ++ boundAfter false rest := by
  unfold Import.lines
  split
  · next ht =>
    have hbinds : i.binds = i.names := by rw [Import.binds, htall ht]; rfl
    rw [hbinds] at h ⊢
    exact boundAfter_names (by decide) h (by simp) rest
  · split
    · next hempty =>
      have hquote : '\'' ∉ "".toList := by decide
      have hnames := statementNames_import hquote (i.source ++ "';")
      have hline : "import '" ++ i.source ++ "';" =
          "import " ++ "" ++ "'" ++ (i.source ++ "';") := by
        rw [String.append_empty, ← String.append_assoc]
        rfl
      rw [List.isEmpty_iff.mp hempty, hline, List.map_singleton, text_code]
      exact boundAfter_statement hnames rest
    · have hclause : wordsIn (i.clause ++ " from ") = i.binds ++ ["from"] := by
        have hfrom : wordsIn " from " = ["from"] := by decide
        rw [wordsIn_append_of_startsApart _ (by decide), wordsIn_clause h, hfrom]
      have hquote : '\'' ∉ (i.clause ++ " from ").toList := by
        rw [String.toList_append, List.mem_append, not_or]
        exact ⟨quote_notMem_clause h, by decide⟩
      have hnames := statementNames_import hquote (i.source ++ "';")
      have hline : "import " ++ i.clause ++ " from '" ++ i.source ++ "';" =
          "import " ++ (i.clause ++ " from ") ++ "'" ++ (i.source ++ "';") := by
        have hfrom : " from '" = " from " ++ "'" := rfl
        rw [hfrom]
        simp only [String.append_assoc]
      rw [hclause, List.dropLast_concat] at hnames
      rw [hline, List.map_singleton, text_code]
      exact boundAfter_statement hnames rest

theorem boundAfter_item {i : Item} (hbinds : ∀ n ∈ i.binds, IsWord n) (hi : i.Regular)
    (rest : List String) :
    boundAfter false (i.lines.map Line.text ++ rest) = i.binds ++ boundAfter false rest := by
  cases i with
  | directive text =>
    have hstart : StartsApart ("'" ++ text ++ "';") := (StartsApart.append (by decide) _).append _
    exact boundAfter_of_startsApart ["'" ++ text ++ "';"] (by simp [hstart]) rest
  | comment text =>
    have hstart : StartsApart ("// " ++ text) := StartsApart.append (by decide) _
    exact boundAfter_of_startsApart ["// " ++ text] (by simp [hstart]) rest
  | imported i => exact boundAfter_imported hbinds hi.tall rest
  | declared d => exact boundAfter_declared hbinds hi rest

/-! ## Modules -/

/-- What is read item by item, with nothing from the empty lines between sections, is read from the
lines of a file. -/
theorem read_lines {α : Type} {read : List String → List α} {value : Item → List α}
    (hnil : read [] = []) (hblank : ∀ rest, read ("" :: rest) = read rest) {f : File}
    (hitem : ∀ i ∈ f.items, ∀ rest, read (i.lines.map Line.text ++ rest) = value i ++ read rest) :
    read (f.lines.map Line.text) = f.items.flatMap value := by
  have hitems {items : List Item} (h : ∀ i ∈ items, ∀ rest,
      read (i.lines.map Line.text ++ rest) = value i ++ read rest) (rest : List String) :
      read ((items.flatMap Item.lines).map Line.text ++ rest) =
        items.flatMap value ++ read rest := by
    induction items with
    | nil => rfl
    | cons i items ih =>
      rw [List.forall_mem_cons] at h
      rw [List.flatMap_cons, List.map_append, List.append_assoc, h.1, ih h.2, List.flatMap_cons,
        List.append_assoc]
  obtain ⟨sections⟩ := f
  rw [File.lines, File.items]
  rw [File.items] at hitem
  induction sections with
  | nil => exact hnil
  | cons s sections ih =>
    rw [List.flatten_cons, List.forall_mem_append] at hitem
    rw [List.flatten_cons, List.flatMap_append]
    cases sections with
    | nil =>
      have hself := hitems hitem.1 []
      rw [List.append_nil, hnil] at hself
      simpa [paragraphs] using hself
    | cons s' sections =>
      have hcons : paragraphs ((s :: s' :: sections).map fun s => s.flatMap Item.lines) =
          s.flatMap Item.lines ++ Line.blank ::
            paragraphs ((s' :: sections).map fun s => s.flatMap Item.lines) := by
        simp [paragraphs, List.intercalate_cons_cons]
      have htext : Line.blank.text = "" := rfl
      rw [hcons, List.map_append, List.map_cons, htext, hitems hitem.1, hblank]
      exact congrArg (s.flatMap value ++ ·) (ih hitem.2)

/-- **The names that are read from the lines of a file are those that it binds.** -/
theorem boundNames_lines {f : File} (hbinds : ∀ n ∈ f.binds, IsWord n)
    (h : ∀ i ∈ f.items, i.Regular) : boundNames (f.lines.map Line.text) = f.binds := by
  refine read_lines rfl (fun rest => ?_) fun i hi rest => boundAfter_item (fun n hn => ?_) (h i hi) _
  · exact boundAfter_of_startsApart [""] (by simp) rest
  · exact hbinds n (List.mem_flatMap.mpr ⟨i, hi, hn⟩)

end EntitySlice.Source
