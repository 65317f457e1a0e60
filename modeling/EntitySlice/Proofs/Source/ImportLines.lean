import EntitySlice.Proofs.Source.Tags
import Mathlib.Data.List.Basic

/-!
# Import statements read from lines

What a module imports can be read from its lines. A statement for that starts at the margin with the
word `import`. Its names stand in braces on the same line, or on lines of their own up to a closing
brace, and the module that they come from stands in quotes at its end. What is read from the lines
of a file is what the file imports (`importsIn_lines`).
-/

namespace EntitySlice.Source

/-! ## Reading -/

/-- The names in the braces that come first, and what follows these. -/
def readNames? (cs : List Char) : Option (List String × List Char) := do
  let inside ← ['\x7b'].isPrefixOf? cs
  let rest ← ['\x7d'].isPrefixOf? (inside.dropWhile (· ≠ '\x7d'))
  return (wordsIn (String.ofList (inside.takeWhile (· ≠ '\x7d'))), rest)

/-- What is imported by the clause that comes first, and what follows it: the default export, names
in braces, or both. -/
def readClause? (cs : List Char) : Option ((Option String × List String) × List Char) :=
  match readName? cs with
  | none => (readNames? cs).map fun (names, rest) => ((none, names), rest)
  | some (name, rest) =>
    match ", ".toList.isPrefixOf? rest with
    | none => some ((some name, []), rest)
    | some more => (readNames? more).map fun (names, rest) => ((some name, names), rest)

/-- The text in quotes that a statement ends with. -/
def readSource? (cs : List Char) : Option String := do
  let inside ← ['\''].isPrefixOf? cs
  if inside.dropWhile (· ≠ '\'') = "';".toList then
    some (String.ofList (inside.takeWhile (· ≠ '\'')))
  else none

/-- The import statement on a line. -/
def readImport? (line : String) : Option Import := do
  let cs ← "import ".toList.isPrefixOf? line.toList
  match readClause? cs with
  | some ((default?, names), rest) =>
    let source ← readSource? (← " from ".toList.isPrefixOf? rest)
    return { default?, names, source }
  | none => (readSource? cs).map fun source => { source }

/-- The import statement that a line ends whose names are on the lines before it. -/
def readTallImport? (names : List String) (line : String) : Option Import := do
  let source ← readSource? (← "\x7d from ".toList.isPrefixOf? line.toList)
  return { names, source, tall := true }

/-- The import statements on lines, behind the names of one that has no end yet. -/
def importsAfter : Option (List String) → List String → List Import
  | _, [] => []
  | none, line :: lines =>
    if line = "import \x7b" then importsAfter (some []) lines
    else (readImport? line).toList ++ importsAfter none lines
  | some names, line :: lines =>
    if line.toList.head? = some ' ' then importsAfter (some (names ++ wordsIn line)) lines
    else (readTallImport? names line).toList ++ importsAfter none lines

/-- The import statements on the lines of a module. -/
def importsIn (lines : List String) : List Import := importsAfter none lines

/-! ## One statement -/

/-- A text in quotes is read up to the quote behind it. -/
theorem readSource?_append {source : String} (h : '\'' ∉ source.toList) :
    readSource? ("'" ++ source ++ "';").toList = some source := by
  have hlist : ("'" ++ source ++ "';").toList = ['\''] ++ (source.toList ++ ['\'', ';']) := by
    simp
  obtain ⟨htake, hdrop⟩ := takeWhile_append_of_notMem h [';']
  rw [readSource?, hlist, isPrefixOf?_append]
  simp only [Option.bind_eq_bind, Option.bind_some]
  rw [htake, hdrop, String.ofList_toList]
  exact if_pos rfl

/-- The names in braces are read, whatever follows them. -/
theorem readNames?_inBraces {names : List String} (h : ∀ n ∈ names, IsWord n) (rest : List Char) :
    readNames? ((inBraces names).toList ++ rest) = some (names, rest) := by
  have hno : '\x7d' ∉ (" " ++ ", ".intercalate names ++ " ").toList := by
    have hname : ∀ n ∈ names, '\x7d' ∉ n.toList := fun n hn hc =>
      absurd ((h n hn).parts _ hc) (by decide)
    rw [String.toList_append, String.toList_append, List.mem_append, List.mem_append, not_or,
      not_or]
    exact ⟨⟨by decide, notMem_intercalate (by decide) hname⟩, by decide⟩
  have hwords : wordsIn (" " ++ ", ".intercalate names ++ " ") = names := by
    have hblank : wordsIn " " = [] := by decide
    rw [wordsIn_append_of_startsApart _ (by decide), wordsIn_append_of_endsApart (by decide),
      wordsIn_intercalate, flatMap_wordsIn h, hblank, List.nil_append, List.append_nil]
  have hlist : (inBraces names).toList ++ rest = ['\x7b'] ++
      ((" " ++ ", ".intercalate names ++ " ").toList ++ '\x7d' :: rest) := by
    simp [inBraces]
  have hclose : ['\x7d'].isPrefixOf? ('\x7d' :: rest) = some rest := isPrefixOf?_append _ rest
  rw [readNames?, hlist, isPrefixOf?_append]
  simp only [Option.bind_eq_bind, Option.bind_some]
  obtain ⟨htake, hdrop⟩ := takeWhile_append_of_notMem hno rest
  rw [htake, hdrop, String.ofList_toList, hwords, hclose]
  rfl

/-- A statement that imports a module and nothing from it is read back. -/
theorem readImport?_source {source : String} (h : '\'' ∉ source.toList) :
    readImport? ("import '" ++ source ++ "';") = some { source } := by
  have hlist : ("import '" ++ source ++ "';").toList =
      "import ".toList ++ ("'" ++ source ++ "';").toList := by
    simp
  have hclause : readClause? ("'" ++ source ++ "';").toList = none := by
    have hquote : ("'" ++ source ++ "';").toList = '\'' :: (source ++ "';").toList := by
      simp
    rw [hquote]
    rfl
  rw [readImport?, hlist, isPrefixOf?_append]
  simp only [Option.bind_eq_bind, Option.bind_some, hclause, readSource?_append h, Option.map_some]

section

variable {i : Import} (hbinds : ∀ n ∈ i.binds, IsWord n)

include hbinds

/-- **What is imported is read from the clause**, if anything is. -/
theorem readClause?_clause (hne : i.binds ≠ []) (rest : List Char) :
    readClause? (i.clause.toList ++ ' ' :: rest) =
      some ((i.default?, i.names), ' ' :: rest) := by
  obtain ⟨default?, names, source, tall⟩ := i
  rw [Import.binds, List.forall_mem_append] at hbinds
  obtain ⟨hdefault, hnames⟩ := hbinds
  have hbraces := readNames?_inBraces hnames
  dsimp only at hdefault hnames hbraces ⊢
  cases default? with
  | none =>
    cases names with
    | nil => exact absurd rfl hne
    | cons n names =>
      have hclause : (⟨none, n :: names, source, tall⟩ : Import).clause = inBraces (n :: names) :=
        String.intercalate_singleton
      have hname : readName? ((inBraces (n :: names)).toList ++ ' ' :: rest) = none := by
        have hlist : (inBraces (n :: names)).toList ++ ' ' :: rest =
            '\x7b' :: ((" " ++ ", ".intercalate (n :: names) ++ " \x7d").toList ++ ' ' :: rest) := by
          simp [inBraces]
        rw [hlist]
        rfl
      rw [hclause, readClause?, hname]
      simp only [hbraces, Option.map_some]
  | some d =>
    have hd : IsWord d := hdefault d (by simp)
    cases names with
    | nil =>
      have hclause : (⟨some d, [], source, tall⟩ : Import).clause = d :=
        String.intercalate_singleton
      have hcomma : ", ".toList.isPrefixOf? (' ' :: rest) = none := rfl
      rw [hclause, readClause?, readName?_append hd rfl]
      simp only [hcomma]
    | cons n names =>
      have hclause : (⟨some d, n :: names, source, tall⟩ : Import).clause =
          d ++ ", " ++ inBraces (n :: names) := by
        simp [Import.clause, String.intercalate_cons_cons]
      have hlist : (d ++ ", " ++ inBraces (n :: names)).toList ++ ' ' :: rest =
          d.toList ++ ',' :: (' ' :: ((inBraces (n :: names)).toList ++ ' ' :: rest)) := by
        simp
      have hcomma : ", ".toList.isPrefixOf?
          (',' :: ' ' :: ((inBraces (n :: names)).toList ++ ' ' :: rest)) =
            some ((inBraces (n :: names)).toList ++ ' ' :: rest) :=
        isPrefixOf?_append [',', ' '] _
      rw [hclause, hlist, readClause?, readName?_append hd rfl]
      simp only [hcomma, hbraces, Option.map_some]

/-- A statement with a clause is read back. -/
theorem readImport?_clause (hi : i.Regular) (htall : i.tall = false) (hne : i.binds ≠ []) :
    readImport? ("import " ++ i.clause ++ " from '" ++ i.source ++ "';") = some i := by
  have hlist : ("import " ++ i.clause ++ " from '" ++ i.source ++ "';").toList =
      "import ".toList ++
        (i.clause.toList ++ ' ' :: ("from ".toList ++ ("'" ++ i.source ++ "';").toList)) := by
    simp
  have hfrom : " from ".toList.isPrefixOf?
      (' ' :: ("from ".toList ++ ("'" ++ i.source ++ "';").toList)) =
        some ("'" ++ i.source ++ "';").toList := isPrefixOf?_append " from ".toList _
  have hself :
      ({ default? := i.default?, names := i.names, source := i.source } : Import) = i := by
    obtain ⟨default?, names, source, tall⟩ := i
    exact congrArg _ htall.symm
  rw [readImport?, hlist, isPrefixOf?_append]
  simp only [Option.bind_eq_bind, Option.bind_some, readClause?_clause hbinds hne, hfrom,
    readSource?_append hi.source]
  exact congrArg some hself

/-- **An import statement on one line is read back.** -/
theorem importsAfter_line (hi : i.Regular) (htall : i.tall = false) (rest : List String) :
    importsAfter none (i.lines.map Line.text ++ rest) = i :: importsAfter none rest := by
  have hstep {line : String} (hread : readImport? line = some i) (hend : ';' ∈ line.toList) :
      importsAfter none (line :: rest) = i :: importsAfter none rest := by
    have hne : line ≠ "import \x7b" := by
      rintro rfl
      exact absurd hend (by decide)
    rw [importsAfter, if_neg hne, hread]
    rfl
  unfold Import.lines
  rw [if_neg (by simp [htall])]
  split
  · next hempty =>
    have hself : ({ source := i.source } : Import) = i := by
      obtain ⟨default?, names, source, tall⟩ := i
      simp_all [Import.binds]
    rw [List.map_singleton, text_code]
    exact hstep ((readImport?_source hi.source).trans (congrArg some hself)) (by simp)
  · next hne =>
    rw [List.map_singleton, text_code]
    exact hstep (readImport?_clause hbinds hi htall (by simpa using hne)) (by simp)

/-- **So is one whose names are on lines of their own.** -/
theorem importsAfter_block (hi : i.Regular) (htall : i.tall = true) (rest : List String) :
    importsAfter none (i.lines.map Line.text ++ rest) = i :: importsAfter none rest := by
  have hnames : ∀ n ∈ i.names, IsWord n := fun n hn => hbinds n (List.mem_append_right _ hn)
  have hself : ({ names := i.names, source := i.source, tall := true } : Import) = i := by
    have hdefault := hi.tall htall
    obtain ⟨default?, names, source, tall⟩ := i
    simp_all
  have hlist : ("\x7d from '" ++ i.source ++ "';").toList =
      "\x7d from ".toList ++ ("'" ++ i.source ++ "';").toList := by
    simp
  have hend : readTallImport? i.names ("\x7d from '" ++ i.source ++ "';") = some i := by
    rw [readTallImport?, hlist, isPrefixOf?_append]
    simp only [Option.bind_eq_bind, Option.bind_some, readSource?_append hi.source]
    exact congrArg some hself
  have hhead : ("\x7d from '" ++ i.source ++ "';").toList.head? ≠ some ' ' := by simp
  -- The names are gathered line by line.
  have hgather (before after : List String) (h : ∀ n ∈ after, IsWord n)
      (hall : before ++ after = i.names) :
      importsAfter (some before) ((nest (after.map fun n => Line.code (n ++ ","))).map Line.text ++
        ("\x7d from '" ++ i.source ++ "';") :: rest) = i :: importsAfter none rest := by
    induction after generalizing before with
    | nil =>
      rw [List.append_nil] at hall
      subst hall
      simp only [nest, indentBy, List.map_nil, List.nil_append, importsAfter, if_neg hhead, hend]
      rfl
    | cons n after ih =>
      rw [List.forall_mem_cons] at h
      have htext : Line.text ⟨2, .code (n ++ ",")⟩ = "  " ++ (n ++ ",") := rfl
      have hblank : ("  " ++ (n ++ ",")).toList.head? = some ' ' := by simp
      have hmore := ih (before ++ [n]) h.2 (by simpa using hall)
      simp only [nest, indentBy, List.map_cons, Line.code, List.cons_append, htext] at hmore ⊢
      rw [importsAfter, if_pos hblank, wordsIn_listed h.1]
      exact hmore
  unfold Import.lines
  rw [if_pos htall, block, List.map_append, List.map_cons, text_code, List.map_singleton, text_code,
    List.cons_append, List.cons_append, List.append_assoc, List.singleton_append, importsAfter,
    if_pos rfl]
  exact hgather [] i.names hnames rfl

end

/-! ## Other lines -/

/-- Whether a line starts no import statement. -/
def NoImport (line : String) : Prop := ¬"import ".toList <+: line.toList

theorem importsAfter_of_noImport (lines : List String) (h : ∀ l ∈ lines, NoImport l)
    (rest : List String) : importsAfter none (lines ++ rest) = importsAfter none rest := by
  induction lines with
  | nil => rfl
  | cons l lines ih =>
    rw [List.forall_mem_cons] at h
    have hread : readImport? l = none := by
      have hprefix : "import ".toList.isPrefixOf? l.toList = none :=
        Option.eq_none_iff_forall_ne_some.mpr fun more hmore =>
          h.1 ⟨more, List.append_eq_of_isPrefixOf?_eq_some hmore⟩
      rw [readImport?, hprefix]
      rfl
    have hne : l ≠ "import \x7b" := by
      rintro rfl
      exact h.1 (by decide)
    rw [List.cons_append, importsAfter, if_neg hne, hread, ih h.2]
    rfl

/-- Another beginning is enough. -/
theorem noImport_of_head {line : String} (h : line.toList.head? ≠ some 'i') : NoImport line := by
  rintro ⟨more, hmore⟩
  exact h (by rw [← hmore]; rfl)

theorem noImport_of_startsApart {line : String} (h : StartsApart line) : NoImport line := by
  refine noImport_of_head fun hhead => ?_
  rw [StartsApart, hhead] at h
  exact absurd h (by decide)

/-- The words that declarations begin with. -/
def firstWords : List String := ["export ", "const ", "type ", "interface "]

theorem noImport_of_firstWord {word line : String} (hword : word ∈ firstWords)
    (h : word.toList <+: line.toList) : NoImport line := by
  have hapart : ∀ w ∈ firstWords,
      ¬"import ".toList <+: w.toList ∧ ¬w.toList <+: "import ".toList := by
    decide
  intro hprefix
  exact (List.prefix_or_prefix_of_prefix hprefix h).elim (hapart word hword).1 (hapart word hword).2

theorem noImport_nest {lines : List Line} : ∀ l ∈ nest lines, NoImport l.text := by
  intro l hl
  rcases startsApart_of_mem_nest hl with h | h
  · rw [h]
    exact noImport_of_head (by decide)
  · exact noImport_of_startsApart h

theorem noImport_exportWord (exported : Bool) {word line : String} (hword : word ∈ firstWords)
    (h : word.toList <+: line.toList) : NoImport (Declaration.exportWord exported ++ line) := by
  cases exported with
  | false =>
    have hself : Declaration.exportWord false ++ line = line := String.empty_append
    rw [hself]
    exact noImport_of_firstWord hword h
  | true =>
    refine noImport_of_firstWord (show "export " ∈ firstWords by decide) ?_
    rw [String.toList_append]
    exact List.prefix_append _ _

/-- A word other than `import` is followed by no blank before a dot. -/
theorem noImport_of_dot {word : String} (hword : IsWord word) (hother : word ≠ "import")
    (rest : String) : NoImport (word ++ "." ++ rest) := by
  rintro ⟨more, hmore⟩
  have hlist : (word ++ "." ++ rest).toList = word.toList ++ '.' :: rest.toList := by simp
  have himport : "import ".toList ++ more = "import".toList ++ ' ' :: more := rfl
  have hleft := (takeWhile_isIdentifierPart hword.parts (c := '.') rfl rest.toList).1
  have hparts : ∀ c ∈ "import".toList, isIdentifierPart c = true :=
    List.all_eq_true.mp (by decide)
  have hright := (takeWhile_isIdentifierPart hparts (c := ' ') rfl more).1
  rw [← hlist, ← hmore, himport, hright] at hleft
  exact hother (String.toList_injective hleft).symm

/-- **No line of a declaration starts an import statement.** -/
theorem noImport_declared {d : Declaration} (hd : d.Regular) :
    ∀ l ∈ d.lines, NoImport l.text := by
  have hblock {first last : String} {body : List Line} (hfirst : NoImport first)
      (hlast : NoImport last) : ∀ l ∈ block first body last, NoImport l.text := by
    rw [block, List.forall_mem_append, List.forall_mem_cons, List.forall_mem_singleton, text_code,
      text_code]
    exact ⟨⟨hfirst, noImport_nest⟩, hlast⟩
  have hexport {line : String} (h : "export ".toList <+: line.toList) : NoImport line :=
    noImport_of_firstWord (by decide) h
  have hbrace : NoImport "\x7d" := noImport_of_head (by decide)
  cases d with
  | const exported name d =>
    rw [Declaration.lines, Definition.lines, List.forall_mem_append, List.forall_mem_cons,
      text_code]
    refine ⟨⟨?_, noImport_nest⟩, List.forall_mem_map.mpr fun l hl => ?_⟩
    · rw [String.append_assoc, String.append_assoc]
      exact noImport_exportWord exported (show "const " ∈ firstWords by decide) (by simp)
    · rw [text_code]
      exact noImport_of_startsApart (hd.2 l (Option.mem_toList.mp hl))
  | members names source =>
    exact hblock (hexport (by decide)) (noImport_of_head (by simp))
  | type exported name definition =>
    rw [Declaration.lines, List.forall_mem_singleton, text_code]
    simp only [String.append_assoc]
    exact noImport_exportWord exported (show "type " ∈ firstWords by decide) (by simp)
  | interface exported name properties =>
    refine hblock ?_ hbrace
    rw [String.append_assoc, String.append_assoc]
    exact noImport_exportWord exported (show "interface " ∈ firstWords by decide) (by simp)
  | main name parameters body | handler name parameters body =>
    exact hblock (hexport (by simp)) hbrace
  | value expression =>
    rw [Declaration.lines, List.forall_mem_singleton, text_code]
    exact hexport (by simp)
  | effect statement =>
    obtain ⟨word, more, rfl, hword, hother⟩ := hd
    rw [Declaration.lines, List.forall_mem_singleton, text_code]
    exact noImport_of_dot hword (fun heq => hother (by simp [heq])) more

/-! ## Modules -/

theorem importsAfter_item {i : Item} (hbinds : ∀ n ∈ i.binds, IsWord n) (hi : i.Regular)
    (rest : List String) : importsAfter none (i.lines.map Line.text ++ rest) =
      i.import?.toList ++ importsAfter none rest := by
  cases i with
  | directive text =>
    refine importsAfter_of_noImport ["'" ++ text ++ "';"] ?_ rest
    rw [List.forall_mem_singleton]
    exact noImport_of_head (by simp)
  | comment text =>
    refine importsAfter_of_noImport ["// " ++ text] ?_ rest
    rw [List.forall_mem_singleton]
    exact noImport_of_head (by simp)
  | imported i =>
    cases htall : i.tall with
    | false => exact importsAfter_line hbinds hi htall rest
    | true => exact importsAfter_block hbinds hi htall rest
  | declared d =>
    exact importsAfter_of_noImport _ (List.forall_mem_map.mpr (noImport_declared hi)) rest

/-- **The import statements that are read from the lines of a file are those that it has.** -/
theorem importsIn_lines {f : File} (hbinds : ∀ n ∈ f.binds, IsWord n)
    (h : ∀ i ∈ f.items, i.Regular) : importsIn (f.lines.map Line.text) = f.imports := by
  have hread : importsIn (f.lines.map Line.text) = f.items.flatMap fun i => i.import?.toList := by
    refine read_lines rfl (fun rest => ?_) fun i hi rest =>
      importsAfter_item (fun n hn => ?_) (h i hi) rest
    · exact importsAfter_of_noImport [""] (List.forall_mem_singleton.mpr
        (noImport_of_head (by decide))) rest
    · exact hbinds n (List.mem_flatMap.mpr ⟨i, hi, hn⟩)
  rw [hread, File.imports, List.filterMap_eq_flatMap_toList]

end EntitySlice.Source
