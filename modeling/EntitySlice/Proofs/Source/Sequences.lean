import EntitySlice.Proofs.Source.RecordUpdates
import Mathlib.Data.List.Basic

/-!
# Lists in generated code

Items with commas between them are read one after the other, each by the same reader (`readItems?`).
A reader that takes each item where it comes first, whatever follows, takes all of them
(`readItems?_intercalate`), and so an array ends at its own bracket whatever is in its texts
(`takes_literalList`).
-/

namespace EntitySlice.Source

variable {α β : Type}

/-- Whether a reader takes a text that comes first for a value, and leaves what follows. -/
def Takes (read? : List Char → Option (α × List Char)) (s : String) (a : α) : Prop :=
  ∀ rest, read? (s.toList ++ rest) = some (a, rest)

/-! ## Items -/

/-- The items with commas between them that come first, and what follows the last of them. -/
def readItems? (item? : List Char → Option (α × List Char)) (cs : List Char) :
    Option (List α × List Char) :=
  match item? cs with
  | none => none
  | some (a, rest) =>
    match [',', ' '].isPrefixOf? rest with
    | none => some ([a], rest)
    | some more =>
      -- A reader of items could leave more than there was.
      if more.length < cs.length then (readItems? item? more).map (Prod.map (a :: ·) id) else none
termination_by cs.length

/-- **All items are taken** where each of them is and no comma follows the last one. -/
theorem readItems?_intercalate {item? : List Char → Option (α × List Char)} {items : List β}
    {write : β → String} {value : β → α} (h : ∀ b ∈ items, Takes item? (write b) (value b))
    (hne : items ≠ []) {rest : List Char} (hrest : [',', ' '].isPrefixOf? rest = none) :
    readItems? item? ((", ".intercalate (items.map write)).toList ++ rest) =
      some (items.map value, rest) := by
  induction items with
  | nil => exact absurd rfl hne
  | cons b items ih =>
    rw [List.forall_mem_cons] at h
    cases items with
    | nil =>
      rw [readItems?, List.map_singleton, String.intercalate_singleton, h.1]
      simp [hrest]
    | cons c items =>
      have hlist : (", ".intercalate ((b :: c :: items).map write)).toList ++ rest =
          (write b).toList ++ ([',', ' '] ++
            ((", ".intercalate ((c :: items).map write)).toList ++ rest)) := by
        simp [String.intercalate_cons_cons]
      rw [hlist, readItems?, h.1]
      simp only [isPrefixOf?_append]
      rw [if_pos (by simp only [List.length_append, List.length_cons]; omega),
        ih h.2 (List.cons_ne_nil _ _)]
      rfl

/-! ## Arrays and texts -/

/-- The items of the array that comes first, and what follows its bracket. -/
def readArray? (item? : List Char → Option (α × List Char)) (cs : List Char) :
    Option (List α × List Char) := do
  let inside ← ['['].isPrefixOf? cs
  match readItems? item? inside with
  | some (items, ']' :: rest) => some (items, rest)
  | _ => ([']'].isPrefixOf? inside).map ([], ·)

/-- An array is taken where its items are, and its bracket is no item. -/
theorem takes_array {item? : List Char → Option (α × List Char)} {items : List β}
    {write : β → String} {value : β → α} (h : ∀ b ∈ items, Takes item? (write b) (value b))
    (hclose : ∀ rest, item? (']' :: rest) = none) :
    Takes (readArray? item?) ("[" ++ ", ".intercalate (items.map write) ++ "]")
      (items.map value) := by
  intro rest
  have hlist : ("[" ++ ", ".intercalate (items.map write) ++ "]").toList ++ rest =
      ['['] ++ ((", ".intercalate (items.map write)).toList ++ ']' :: rest) := by
    simp
  rw [hlist, readArray?, isPrefixOf?_append]
  cases items with
  | nil =>
    have hnone : readItems? item? (']' :: rest) = none := by
      rw [readItems?, hclose]
    simp [hnone]
  | cons b items =>
    have hinside : readItems? item?
        ((", ".intercalate ((b :: items).map write)).toList ++ ']' :: rest) =
          some ((b :: items).map value, ']' :: rest) :=
      readItems?_intercalate h (List.cons_ne_nil _ _) rfl
    simp only [Option.bind_eq_bind, Option.bind_some, hinside]

/-- The text of the literal that comes first, and what follows it. -/
def readText? (cs : List Char) : Option (String × List Char) :=
  (readLiteral? cs).map (Prod.map String.ofList id)

theorem takes_literal (s : String) : Takes readText? (literal s) s := by
  intro rest
  rw [literal, String.toList_ofList, readText?, readLiteral?_literalChars]
  simp

/-- **An array of literals is read as its texts**, whatever the texts are and whatever follows. -/
theorem takes_literalList (texts : List String) :
    Takes (readArray? readText?) (literalList texts) texts := by
  have h : Takes (readArray? readText?) (literalList texts) (texts.map id) :=
    takes_array (fun s _ => takes_literal s) fun _ => rfl
  rwa [List.map_id] at h

/-! ## Objects -/

/-- The name of the entry that comes first, if its value is the given one, and what follows it. -/
def readPair? (value : String) (cs : List Char) : Option (String × List Char) := do
  let (name, rest) ← readKeyFirst? cs
  let rest ← (": " ++ value).toList.isPrefixOf? rest
  return (String.ofList name, rest)

theorem takes_pair (name value : String) :
    Takes (readPair? value) (Member.entry (propertyKey name) value).source name := by
  intro rest
  have hlist : (Member.entry (propertyKey name) value).source.toList ++ rest =
      (propertyKey name).toList ++ ':' :: (' ' :: (value.toList ++ rest)) := by
    simp [Member.source]
  have hvalue : (": " ++ value).toList.isPrefixOf? (':' :: (' ' :: (value.toList ++ rest))) =
      some rest := by
    have hsplit : ':' :: (' ' :: (value.toList ++ rest)) = (": " ++ value).toList ++ rest := by
      simp
    rw [hsplit, isPrefixOf?_append]
  rw [readPair?, hlist, readKeyFirst?_propertyKey name rfl]
  simp only [Option.bind_eq_bind, Option.bind_some, hvalue, String.ofList_toList, Option.pure_def]

/-- The items in the braces that come first, and what follows these. -/
def readBraces? (item? : List Char → Option (α × List Char)) (cs : List Char) :
    Option (List α × List Char) := do
  let (items, rest) ← readItems? item? (← "\x7b ".toList.isPrefixOf? cs)
  let rest ← " \x7d".toList.isPrefixOf? rest
  return (items, rest)

/-- Braces are taken where the items in them are. -/
theorem takes_inBraces {item? : List Char → Option (α × List Char)} {items : List β}
    {write : β → String} {value : β → α} (h : ∀ b ∈ items, Takes item? (write b) (value b))
    (hne : items ≠ []) : Takes (readBraces? item?) (inBraces (items.map write))
      (items.map value) := by
  intro rest
  have hlist : (inBraces (items.map write)).toList ++ rest = "\x7b ".toList ++
      ((", ".intercalate (items.map write)).toList ++ (" \x7d".toList ++ rest)) := by
    simp [inBraces]
  rw [readBraces?, hlist, isPrefixOf?_append]
  simp only [Option.bind_eq_bind, Option.bind_some]
  rw [readItems?_intercalate h hne rfl]
  simp only [Option.bind_some, isPrefixOf?_append, Option.pure_def]

/-! ## Statements -/

/-- What follows the word that code begins with. -/
def behindWord (cs : List Char) : List Char := cs.dropWhile isIdentifierPart

/-- What is added to code comes behind what follows the word, if something follows it. -/
theorem behindWord_append {cs : List Char} (h : behindWord cs ≠ []) (more : List Char) :
    behindWord (cs ++ more) = behindWord cs ++ more := by
  rw [behindWord, List.dropWhile_append, ← behindWord, if_neg (by simpa using h)]

/-- Code that begins with a word is not indented. -/
theorem head?_append_ne_blank {word : List Char} (hword : ∀ c ∈ word, isIdentifierPart c = true)
    {c : Char} (hc : c ≠ ' ') (more : List Char) : (word ++ c :: more).head? ≠ some ' ' := by
  cases word with
  | nil => simpa using hc
  | cons d ds =>
    intro hblank
    obtain rfl : d = ' ' := Option.some.inj hblank
    exact absurd (hword ' ' List.mem_cons_self) (by decide)

/-- There are no blanks to drop from code that is not indented. -/
theorem dropWhile_of_head?_ne_blank {cs : List Char} (h : cs.head? ≠ some ' ') :
    cs.dropWhile (· = ' ') = cs := by
  cases cs with
  | nil => rfl
  | cons c cs => exact List.dropWhile_cons_of_neg (by simpa using h)

/--
The word that a line begins with, and what is read behind the word and a mark, if the line ends
after it in the given way.
-/
def readStatement? (mark : String) (read? : List Char → Option (α × List Char)) (ending : String)
    (line : String) : Option (String × α) := do
  let cs := line.toList.dropWhile (· = ' ')
  let (a, rest) ← read? (← mark.toList.isPrefixOf? (behindWord cs))
  if String.ofList rest = ending then
    return (String.ofList (cs.takeWhile isIdentifierPart), a)
  else none

section

variable {mark : String} {read? : List Char → Option (α × List Char)} {ending : String}

/-- Indentation does not matter. -/
theorem readStatement?_text (l : Line) :
    readStatement? mark read? ending l.text = readStatement? mark read? ending l.content.text := by
  rw [readStatement?, readStatement?, dropWhile_text]

/-- The statements in a text are read on the lines that it was written from. -/
theorem filterMap_readStatement?_textLines {f : File}
    (h : OnLines (fun c => OneLine c.text) f.lines)
    (hend : readStatement? mark read? ending "" = none) :
    (textLines f.text).filterMap (readStatement? mark read? ending) =
      readOn (fun c => readStatement? mark read? ending c.text) f.lines := by
  rw [textLines_text h, List.filterMap_append, List.filterMap_cons_none hend, List.filterMap_nil,
    List.append_nil, List.filterMap_map]
  exact List.filterMap_congr fun l _ => readStatement?_text l

/-- A statement is read with its word if what stands behind the mark is read up to the ending. -/
theorem readStatement?_of_read {x s : String} {a : α}
    (hs : read? s.toList = some (a, ending.toList))
    (hx : ∀ c ∈ x.toList, isIdentifierPart c = true) {c : Char} {cs : List Char}
    (hmark : mark.toList = c :: cs) (hc : isIdentifierPart c = false) (hblank : c ≠ ' ') :
    readStatement? mark read? ending (x ++ mark ++ s) = some (x, a) := by
  have hlist : (x ++ mark ++ s).toList = x.toList ++ c :: (cs ++ s.toList) := by
    simp [hmark]
  have hdrop : (x.toList ++ c :: (cs ++ s.toList)).dropWhile (· = ' ') =
      x.toList ++ c :: (cs ++ s.toList) :=
    dropWhile_of_head?_ne_blank (head?_append_ne_blank hx hblank _)
  obtain ⟨htake, hbehind⟩ := takeWhile_isIdentifierPart hx hc (cs ++ s.toList)
  have hbegins : (c :: cs).isPrefixOf? (c :: (cs ++ s.toList)) = some s.toList :=
    isPrefixOf?_append (c :: cs) _
  rw [readStatement?, hlist, hdrop]
  simp only [behindWord, htake, hbehind, hmark, hbegins, Option.bind_eq_bind, Option.bind_some,
    hs, String.ofList_toList, if_true, Option.pure_def]

/-- **A statement is read with its word and what stands behind the mark.** -/
theorem readStatement?_append {x s : String} {a : α} (hs : Takes read? s a)
    (hx : ∀ c ∈ x.toList, isIdentifierPart c = true) {c : Char} {cs : List Char}
    (hmark : mark.toList = c :: cs) (hc : isIdentifierPart c = false) (hblank : c ≠ ' ') :
    readStatement? mark read? ending (x ++ mark ++ s ++ ending) = some (x, a) := by
  have hread : read? (s ++ ending).toList = some (a, ending.toList) := by
    rw [String.toList_append]
    exact hs _
  rw [String.append_assoc]
  exact readStatement?_of_read hread hx hmark hc hblank

/-- Nothing is read of code that does not go on with the mark behind its first word. -/
theorem readStatement?_of_not_prefix {s : String} (hblank : s.toList.head? ≠ some ' ')
    (h : ¬mark.toList <+: behindWord s.toList) : readStatement? mark read? ending s = none := by
  have hdrop := dropWhile_of_head?_ne_blank hblank
  have hbegins : mark.toList.isPrefixOf? (behindWord s.toList) = none :=
    Option.eq_none_iff_forall_ne_some.mpr fun rest hrest =>
      h ⟨rest, List.append_eq_of_isPrefixOf?_eq_some hrest⟩
  rw [readStatement?, hdrop]
  simp [hbegins]

/-- Nothing is read of code that begins with a key, unless the mark could be part of one. -/
theorem readStatement?_of_key (name rest : String) {c : Char} {cs : List Char}
    (hmark : mark.toList = c :: cs) (hc : c ≠ ':' ∧ c ≠ '\'') :
    readStatement? mark read? ending (propertyKey name ++ (": " ++ rest)) = none := by
  have hlist : (propertyKey name ++ (": " ++ rest)).toList =
      (propertyKey name).toList ++ ':' :: ' ' :: rest.toList := by
    simp
  have hdrop := dropWhile_propertyKey 0 name (':' :: ' ' :: rest.toList)
  have hbehind : ∃ d ds, behindWord ((propertyKey name).toList ++ ':' :: ' ' :: rest.toList) =
      d :: ds ∧ (d = ':' ∨ d = '\'') := by
    unfold propertyKey
    split
    · next h =>
      have hname : ∀ d ∈ name.toList, isIdentifierPart d = true := fun d hd =>
        isIdentifierPart_of_mem h hd
      exact ⟨_, _, (takeWhile_isIdentifierPart hname (by decide) _).2, .inl rfl⟩
    · refine ⟨'\'', escapeChars name.toList ++ '\'' :: ':' :: ' ' :: rest.toList, ?_, .inr rfl⟩
      simp [behindWord, literal, literalChars]
      rfl
  obtain ⟨d, ds, hbehind, hd⟩ := hbehind
  have hbegins : mark.toList.isPrefixOf? (d :: ds) = none := by
    refine Option.eq_none_iff_forall_ne_some.mpr fun more hmore => ?_
    have happend := List.append_eq_of_isPrefixOf?_eq_some hmore
    rw [hmark, List.cons_append] at happend
    obtain rfl := (List.cons.inj happend).1
    exact hd.elim hc.1 hc.2
  rw [List.replicate_zero, List.nil_append] at hdrop
  rw [readStatement?, hlist, hdrop, hbehind, hbegins]
  rfl

end

/-! ## Members -/

/-- The object and the name in the expression for a member that comes first, and what follows it. -/
def readMemberFirst? (cs : List Char) : Option ((String × String) × List Char) :=
  let object := String.ofList (cs.takeWhile isIdentifierPart)
  match cs.dropWhile isIdentifierPart with
  | '.' :: rest =>
    let name := rest.takeWhile isIdentifierPart
    if isIdentifierChars name then
      some ((object, String.ofList name), rest.dropWhile isIdentifierPart)
    else none
  | '[' :: rest =>
    match readText? rest with
    | some (name, ']' :: rest) => some ((object, name), rest)
    | _ => none
  | _ => none

/-- A member is read from the front if no character follows that could belong to its name. -/
theorem readMemberFirst?_member {x : String} (hx : ∀ c ∈ x.toList, isIdentifierPart c = true)
    (name : String) {c : Char} (hc : isIdentifierPart c = false) (rest : List Char) :
    readMemberFirst? ((member x name).toList ++ c :: rest) = some ((x, name), c :: rest) := by
  unfold member
  split
  · next h =>
    have hlist : (x ++ "." ++ name).toList ++ c :: rest =
        x.toList ++ '.' :: (name.toList ++ c :: rest) := by
      simp
    obtain ⟨htake, hdrop⟩ :=
      takeWhile_isIdentifierPart hx (c := '.') rfl (name.toList ++ c :: rest)
    obtain ⟨hname, hrest⟩ :=
      takeWhile_isIdentifierPart (fun d hd => isIdentifierPart_of_mem h hd) hc rest
    rw [readMemberFirst?, hlist, htake, hdrop]
    simp only [hname, hrest, String.ofList_toList]
    exact if_pos h
  · have hlist : (x ++ "[" ++ literal name ++ "]").toList ++ c :: rest =
        x.toList ++ '[' :: ((literal name).toList ++ ']' :: c :: rest) := by
      simp
    obtain ⟨htake, hdrop⟩ :=
      takeWhile_isIdentifierPart hx (c := '[') rfl ((literal name).toList ++ ']' :: c :: rest)
    rw [readMemberFirst?, hlist, htake, hdrop]
    simp only [takes_literal name _, String.ofList_toList]

end EntitySlice.Source
