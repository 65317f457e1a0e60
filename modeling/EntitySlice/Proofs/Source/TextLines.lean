import EntitySlice.Proofs.Source.Contents
import EntitySlice.Proofs.Source.Modules

/-!
# Lines of a text

A text is cut into lines at its line feeds (`textLines`). The lines of a file come out of its text
as they were written, as far as none of them has a line feed in it (`textLines_linesText_append`),
so a block can be found between its first and its last line (`linesBetween_text`).

Lines in blocks give something to a key. `readKeyLine?` and `readRow?` take the key from the line
again, whatever name it was written for (`readKeyLine?_keyLine`, `readRow?_rowLine`).
-/

namespace EntitySlice.Source

/-- The lines of a text: what stands before, between and after its line feeds. -/
def textLines (s : String) : List String :=
  (s.toList.splitOn '\n').map String.ofList

/-- The lines after the first line `first` and before the next line `last`. -/
def linesBetween (first last : String) (lines : List String) : List String :=
  ((lines.dropWhile (· ≠ first)).drop 1).takeWhile (· ≠ last)

/-! ## Texts on one line -/

/-- Whether a text has no line feed. -/
def OneLine (s : String) : Prop :=
  '\n' ∉ s.toList

instance (s : String) : Decidable (OneLine s) :=
  inferInstanceAs (Decidable (¬_))

/-- The characters of a text decide whether it is on one line; a text is slow to take apart. -/
theorem OneLine.ofList {cs : List Char} (h : '\n' ∉ cs) : OneLine (String.ofList cs) := by
  rwa [OneLine, String.toList_ofList]

@[simp] theorem oneLine_append {s t : String} : OneLine (s ++ t) ↔ OneLine s ∧ OneLine t := by
  simp [OneLine]

theorem OneLine.append {s t : String} (hs : OneLine s) (ht : OneLine t) : OneLine (s ++ t) :=
  oneLine_append.mpr ⟨hs, ht⟩

/-- Texts with others between them have no character but theirs. -/
theorem notMem_intercalate {c : Char} {s : String} {texts : List String} (hs : c ∉ s.toList)
    (h : ∀ t ∈ texts, c ∉ t.toList) : c ∉ (s.intercalate texts).toList := by
  rw [String.toList_intercalate]
  induction texts with
  | nil => simp
  | cons t texts ih =>
    rw [List.forall_mem_cons] at h
    cases texts with
    | nil =>
      rw [List.map_singleton, List.intercalate_singleton]
      exact h.1
    | cons u texts =>
      rw [List.map_cons, List.map_cons, List.intercalate_cons_cons, List.mem_append,
        List.mem_append, not_or, not_or]
      exact ⟨⟨h.1, hs⟩, ih h.2⟩

theorem OneLine.intercalate {s : String} {texts : List String} (hs : OneLine s)
    (h : ∀ t ∈ texts, OneLine t) : OneLine (s.intercalate texts) :=
  notMem_intercalate hs h

theorem newline_notMem_escapeChar (c : Char) : '\n' ∉ escapeChar c := by
  by_cases h : c = '\n'
  · subst h
    decide
  · have hne : '\n' ≠ c := fun he => h he.symm
    unfold escapeChar
    repeat' split
    all_goals simp [hne]

/-- **A literal is on one line**, whatever it is for. -/
@[simp] theorem oneLine_literal (s : String) : OneLine (literal s) := by
  have hinside : '\n' ∉ escapeChars s.toList := by
    intro h
    obtain ⟨c, -, hc⟩ := List.mem_flatMap.mp h
    exact newline_notMem_escapeChar c hc
  simp [OneLine, literal, literalChars, hinside]

/-- The characters of an identifier can all stand inside one. -/
theorem isIdentifierPart_of_mem {cs : List Char} (h : isIdentifierChars cs = true) {c : Char}
    (hc : c ∈ cs) : isIdentifierPart c = true := by
  cases cs with
  | nil => simp at hc
  | cons d rest =>
    rw [isIdentifierChars, Bool.and_eq_true] at h
    rcases List.mem_cons.mp hc with rfl | hc
    · have hstart := h.1
      simp only [isIdentifierStart, Bool.or_eq_true] at hstart
      simp only [isIdentifierPart, Char.isAlphanum, Bool.or_eq_true]
      exact hstart.imp_left (Or.imp_left Or.inl)
    · exact List.all_eq_true.mp h.2 c hc

theorem OneLine.of_isIdentifierPart {s : String} (h : ∀ c ∈ s.toList, isIdentifierPart c = true) :
    OneLine s := by
  intro hc
  exact absurd (h _ hc) (by decide)

@[simp] theorem oneLine_propertyKey (name : String) : OneLine (propertyKey name) := by
  unfold propertyKey
  split
  · next h => exact .of_isIdentifierPart fun c hc => isIdentifierPart_of_mem h hc
  · exact oneLine_literal name

theorem OneLine.member {object : String} (h : OneLine object) (name : String) :
    OneLine (member object name) := by
  unfold Source.member
  split
  · next hname =>
    have hpart : OneLine name := .of_isIdentifierPart fun c hc => isIdentifierPart_of_mem hname hc
    exact (h.append (by decide)).append hpart
  · exact ((h.append (by decide)).append (oneLine_literal name)).append (by decide)

theorem OneLine.inBraces {texts : List String} (h : ∀ t ∈ texts, OneLine t) :
    OneLine (inBraces texts) :=
  (OneLine.append (by decide) (.intercalate (by decide) h)).append (by decide)

theorem text_indented (n : Nat) (s : String) :
    Line.text ⟨n, .code s⟩ = String.ofList (List.replicate n ' ') ++ s := rfl

theorem oneLine_code {n : Nat} {s : String} (h : OneLine s) : OneLine (Line.text ⟨n, .code s⟩) := by
  rw [text_indented]
  exact OneLine.append (by simp [OneLine]) h

/-- Without the blanks in front a line is what stands on it. -/
theorem dropWhile_text (l : Line) :
    l.text.toList.dropWhile (· = ' ') = l.content.text.toList.dropWhile (· = ' ') := by
  have hmargin : ∀ c ∈ l.margin.toList, c = ' ' := by
    unfold Line.margin
    split <;> simp
  rw [Line.text, String.toList_append, List.dropWhile_append_of_pos (by simpa using hmargin)]

theorem oneLine_text {l : Line} (h : OneLine l.content.text) : OneLine l.text := by
  refine OneLine.append ?_ h
  unfold Line.margin
  split <;> simp [OneLine]

/-! ## Lines of a file -/

theorem linesText_append (a b : List Line) : linesText (a ++ b) = linesText a ++ linesText b := by
  rw [linesText, linesText, linesText, List.map_append, ← String.toList_inj]
  simp [String.toList_join]

/-- **Lines come out of a text as they were written.** -/
theorem textLines_linesText_append {lines : List Line} (h : ∀ l ∈ lines, OneLine l.text)
    (rest : String) :
    textLines (linesText lines ++ rest) = lines.map Line.text ++ textLines rest := by
  induction lines with
  | nil => simp [linesText, String.join]
  | cons l lines ih =>
    rw [List.forall_mem_cons] at h
    -- The first line feed is the one behind the first line, which has none itself.
    have htext : (linesText (l :: lines) ++ rest).toList =
        l.text.toList ++ '\n' :: (linesText lines ++ rest).toList := by
      simp [linesText, String.toList_join]
    rw [textLines, htext, List.splitOn_append_cons_self_of_not_mem h.1, List.map_cons,
      String.ofList_toList, List.map_cons, List.cons_append]
    exact congrArg _ (ih h.2)

/-- The text of a file has the lines of the file, and nothing behind the last of them. -/
theorem textLines_text {f : File} (h : OnLines (fun c => OneLine c.text) f.lines) :
    textLines f.text = f.lines.map Line.text ++ [""] := by
  have hall : ∀ l ∈ f.lines, OneLine l.text := fun l hl =>
    oneLine_text (h l.content (List.mem_map_of_mem hl))
  have happend := textLines_linesText_append hall ""
  rwa [String.append_empty] at happend

/-- The lines between two others that do not come up before. -/
theorem linesBetween_append {first last : String} {before inner : List String}
    (hfirst : first ∉ before) (hlast : last ∉ inner) (after : List String) :
    linesBetween first last (before ++ first :: (inner ++ last :: after)) = inner := by
  have hdrop : (before ++ first :: (inner ++ last :: after)).dropWhile (· ≠ first) =
      first :: (inner ++ last :: after) := by
    rw [List.dropWhile_append_of_pos]
    · rw [List.dropWhile_cons_of_neg]
      simp
    · intro s hs
      have hne : s ≠ first := fun he => hfirst (he ▸ hs)
      simpa using hne
  rw [linesBetween, hdrop, List.drop_one, List.tail_cons, List.takeWhile_append_of_pos]
  · simp
  · intro s hs
    have hne : s ≠ last := fun he => hlast (he ▸ hs)
    simpa using hne

/-- **The lines of a block stand between its first and its last line.** -/
theorem linesBetween_text {f : File} {before inner after : List Line} {opening closing : Line}
    (hf : f.lines = before ++ opening :: (inner ++ closing :: after))
    (hbefore : ∀ l ∈ before, OneLine l.text ∧ l.text ≠ opening.text)
    (hopening : OneLine opening.text)
    (hinner : ∀ l ∈ inner, OneLine l.text ∧ l.text ≠ closing.text)
    (hclosing : OneLine closing.text) :
    linesBetween opening.text closing.text (textLines f.text) = inner.map Line.text := by
  -- What follows the block may have line feeds in its lines: it is not looked at.
  have hlines : ∀ l ∈ before ++ opening :: (inner ++ [closing]), OneLine l.text := by
    simp only [List.forall_mem_append, List.forall_mem_cons]
    exact ⟨fun l hl => (hbefore l hl).1, hopening, fun l hl => (hinner l hl).1, hclosing,
      fun _ h => absurd h List.not_mem_nil⟩
  have hsplit : f.lines = (before ++ opening :: (inner ++ [closing])) ++ after := by
    rw [hf]
    simp
  rw [File.text, hsplit, linesText_append, textLines_linesText_append hlines, List.map_append,
    List.map_cons, List.map_append, List.map_singleton, List.append_assoc, List.cons_append,
    List.append_assoc, List.singleton_append]
  apply linesBetween_append
  · intro h
    obtain ⟨l, hl, he⟩ := List.mem_map.mp h
    exact (hbefore l hl).2 he
  · intro h
    obtain ⟨l, hl, he⟩ := List.mem_map.mp h
    exact (hinner l hl).2 he

/-- A line of code is not like one that is further out. -/
theorem text_ne_of_lt {k n : Nat} (h : k < n) {s t : String} {c : Char}
    (hs : s.toList.head? = some c) (hc : c ≠ ' ') :
    Line.text ⟨n, .code t⟩ ≠ Line.text ⟨k, .code s⟩ := by
  intro he
  -- Without the blanks that both have in front, one still begins with a blank.
  obtain ⟨d, rfl⟩ := Nat.exists_eq_add_of_lt h
  have hlist := congrArg String.toList he
  simp only [text_indented, String.toList_append, String.toList_ofList, Nat.add_assoc] at hlist
  rw [← List.replicate_append_replicate, List.append_assoc] at hlist
  have hhead : s.toList.head? = some ' ' := by
    rw [← List.append_cancel_left hlist]
    rfl
  rw [hs] at hhead
  exact hc (Option.some.inj hhead)

/-- **The code in a block stands between its first and its last line**, which are further out. -/
theorem linesBetween_code {f : File} {before after : List Line} {opening : Line} {k n : Nat}
    {closing first last : String} {texts : List String}
    (hf : f.lines = before ++
      opening :: (texts.map (fun t => ⟨n, .code t⟩) ++ ⟨k, .code closing⟩ :: after))
    (hfirst : opening.text = first) (hlast : Line.text ⟨k, .code closing⟩ = last)
    (hbefore : ∀ l ∈ before, OneLine l.text ∧ l.text ≠ first) (hopening : OneLine first)
    (htexts : ∀ t ∈ texts, OneLine t) (hkn : k < n) (hclosing : OneLine closing) {c : Char}
    (hc : closing.toList.head? = some c) (hne : c ≠ ' ') :
    linesBetween first last (textLines f.text) = texts.map fun t => Line.text ⟨n, .code t⟩ := by
  subst hfirst hlast
  have hinner : ∀ l ∈ texts.map (fun t => (⟨n, .code t⟩ : Line)),
      OneLine l.text ∧ l.text ≠ Line.text ⟨k, .code closing⟩ := by
    rw [List.forall_mem_map]
    exact fun t ht => ⟨oneLine_code (htexts t ht), text_ne_of_lt hkn hc hne⟩
  rw [linesBetween_text hf hbefore hopening hinner (oneLine_code hclosing), List.map_map]
  rfl

theorem nest_map_code (texts : List String) :
    nest (texts.map Line.code) = texts.map fun t => ⟨2, .code t⟩ := by
  simp [nest, indentBy, Line.code]

theorem lines_const (exported : Bool) (name first last : String) (texts : List String) :
    (Declaration.const exported name ⟨first, texts.map Line.code, some last⟩).lines =
      Line.code (Declaration.exportWord exported ++ "const " ++ name ++ first) ::
        (texts.map (fun t => ⟨2, .code t⟩) ++ [Line.code last]) := by
  rw [Declaration.lines, Definition.lines, nest_map_code]
  rfl

theorem lines_interface (exported : Bool) (name : String) (texts : List String) :
    (Declaration.interface exported name (texts.map Line.code)).lines =
      Line.code (Declaration.exportWord exported ++ "interface " ++ name ++ " \x7b") ::
        (texts.map (fun t => ⟨2, .code t⟩) ++ [Line.code "\x7d"]) := by
  rw [Declaration.lines, block, nest_map_code]
  rfl

theorem ne_of_head {s t : String} {c : Char} (hs : s.toList.head? ≠ some c)
    (ht : t.toList.head? = some c) : s ≠ t := by
  rintro rfl
  exact hs ht

/-! ## Keys read back -/

/-- The name that a key at the front stands for, and what follows the key. -/
def readKeyFirst? (cs : List Char) : Option (List Char × List Char) :=
  let bare := cs.takeWhile isIdentifierPart
  if isIdentifierChars bare then some (bare, cs.dropWhile isIdentifierPart) else readLiteral? cs

/-- A line that gives something to a key. -/
structure KeyLine where
  name : String
  /-- Whether there is a question mark behind the key. -/
  optional : Bool
  /-- The type or the value behind the key. -/
  content : String
  deriving DecidableEq, Repr

/-- Whether a question mark comes first, and what follows it. -/
def readMark : List Char → Bool × List Char
  | '?' :: rest => (true, rest)
  | rest => (false, rest)

/-- What a line gives to a key, behind its indentation and up to the sign at its end. -/
def readKeyLine? (ending : Char) (line : String) : Option KeyLine := do
  let (name, rest) ← readKeyFirst? (line.toList.dropWhile (· = ' '))
  let (optional, rest) := readMark rest
  let content ← [':', ' '].isPrefixOf? rest
  if content.getLast? = some ending then
    return ⟨String.ofList name, optional, String.ofList content.dropLast⟩
  else none

/-- The key and the label in a row of a table. -/
def readRow? (line : String) : Option (String × String) := do
  let rest ← "  \x7b key: ".toList.isPrefixOf? line.toList
  let (key, rest) ← readLiteral? rest
  let rest ← ", label: ".toList.isPrefixOf? rest
  let (label, _) ← readLiteral? rest
  return (String.ofList key, String.ofList label)

theorem isPrefixOf?_append (as bs : List Char) : as.isPrefixOf? (as ++ bs) = some bs := by
  induction as with
  | nil => rfl
  | cons a as ih =>
    have hstep : (a :: as).isPrefixOf? (a :: (as ++ bs)) =
        if a == a then as.isPrefixOf? (as ++ bs) else none := rfl
    rw [List.cons_append, hstep, if_pos (beq_self_eq_true a), ih]

/-- A list is taken up to the first element that is not to be taken, and no further. -/
theorem takeWhile_append_of_all {α : Type} {p : α → Bool} {as : List α} {b : α}
    (h : ∀ a ∈ as, p a = true) (hb : p b = false) (rest : List α) :
    (as ++ b :: rest).takeWhile p = as ∧ (as ++ b :: rest).dropWhile p = b :: rest := by
  rw [List.takeWhile_append_of_pos h, List.dropWhile_append_of_pos h,
    List.takeWhile_cons_of_neg (by simp [hb]), List.dropWhile_cons_of_neg (by simp [hb]),
    List.append_nil]
  exact ⟨rfl, rfl⟩

/-- So is a text, up to a character that it does not have. -/
theorem takeWhile_append_of_notMem {cs : List Char} {c : Char} (h : c ∉ cs) (rest : List Char) :
    (cs ++ c :: rest).takeWhile (· ≠ c) = cs ∧ (cs ++ c :: rest).dropWhile (· ≠ c) = c :: rest :=
  takeWhile_append_of_all (fun _ hd => decide_eq_true (ne_of_mem_of_not_mem hd h)) (by simp) rest

/-- A key is read from the front if no character follows that could belong to it. -/
theorem readKeyFirst?_propertyKey (name : String) {c : Char} (hc : isIdentifierPart c = false)
    (rest : List Char) :
    readKeyFirst? ((propertyKey name).toList ++ c :: rest) = some (name.toList, c :: rest) := by
  unfold propertyKey
  split
  · next h =>
    have hall : ∀ d ∈ name.toList, isIdentifierPart d = true := fun d hd =>
      isIdentifierPart_of_mem h hd
    obtain ⟨htake, hdrop⟩ := takeWhile_append_of_all hall hc rest
    simp only [readKeyFirst?, htake, hdrop]
    exact if_pos h
  · -- A literal starts with a quote, so there is no identifier in front.
    have hquote : (literal name).toList = '\'' :: (escapeChars name.toList ++ ['\'']) := by
      simp [literal, literalChars]
    have htake : ((literal name).toList ++ c :: rest).takeWhile isIdentifierPart = [] := by
      rw [hquote]
      rfl
    simp only [readKeyFirst?, htake]
    rw [literal, String.toList_ofList, readLiteral?_literalChars]
    exact if_neg (by decide)

/-- A key does not begin with a blank. -/
theorem dropWhile_propertyKey (n : Nat) (name : String) (rest : List Char) :
    (List.replicate n ' ' ++ ((propertyKey name).toList ++ rest)).dropWhile (· = ' ') =
      (propertyKey name).toList ++ rest := by
  have hkey : ∃ c cs, (propertyKey name).toList = c :: cs ∧ c ≠ ' ' := by
    unfold propertyKey
    split
    · next h =>
      cases hname : name.toList with
      | nil => simp [isIdentifier, isIdentifierChars, hname] at h
      | cons c cs =>
        refine ⟨c, cs, rfl, ?_⟩
        rintro rfl
        have hc := isIdentifierPart_of_mem h (hname ▸ List.mem_cons_self)
        exact absurd hc (by decide)
    · exact ⟨'\'', _, by simp [literal, literalChars]; rfl, by decide⟩
  obtain ⟨c, cs, hcs, hc⟩ := hkey
  rw [List.dropWhile_append_of_pos (by simp), hcs, List.cons_append,
    List.dropWhile_cons_of_neg (by simpa using hc)]

/-- **What a line gives to a key is read back**, with the name that the key was written for. -/
theorem readKeyLine?_keyLine (n : Nat) (name content : String) {ending : Char} {sign : String}
    (hsign : sign.toList = [ending]) :
    readKeyLine? ending (Line.text ⟨n, .code (propertyKey name ++ ": " ++ content ++ sign)⟩) =
      some ⟨name, false, content⟩ := by
  have htext : (Line.text ⟨n, .code (propertyKey name ++ ": " ++ content ++ sign)⟩).toList =
      List.replicate n ' ' ++ ((propertyKey name).toList ++ ':' :: ' ' ::
        (content.toList ++ [ending])) := by
    simp [text_indented, hsign]
  have hmark : readMark (':' :: ' ' :: (content.toList ++ [ending])) =
      (false, ':' :: ' ' :: (content.toList ++ [ending])) := rfl
  have hprefix : [':', ' '].isPrefixOf? (':' :: ' ' :: (content.toList ++ [ending])) =
      some (content.toList ++ [ending]) := isPrefixOf?_append _ _
  -- The key ends at the colon, which cannot belong to it.
  rw [readKeyLine?, htext, dropWhile_propertyKey, readKeyFirst?_propertyKey _ rfl]
  simp only [Option.bind_eq_bind, Option.bind_some, hmark, hprefix]
  simp

/-- **The key and the label of a row are read back.** -/
theorem readRow?_rowLine (key label rest : String) :
    readRow? ("  \x7b key: " ++ literal key ++ ", label: " ++ literal label ++ rest) =
      some (key, label) := by
  have hliteral (s : String) : (literal s).toList = literalChars s.toList := by
    simp [literal]
  simp only [readRow?, String.toList_append, List.append_assoc, hliteral, isPrefixOf?_append,
    Option.bind_eq_bind, Option.bind_some, readLiteral?_literalChars, String.ofList_toList,
    Option.pure_def]

end EntitySlice.Source
