import EntitySlice.Proofs.Json.Scan

/-!
# The tokens of written values

The text of a value is its tokens with white space between them. `Value.tokens` lists them as the
machine reads them, and `scan_indentedBefore` finds them in the indented text, provided that the
numbers in the value read back.
-/

namespace EntitySlice.Json

/-- A property of all values holds when it passes from the parts of a value to the value. -/
@[elab_as_elim]
theorem Value.induction {motive : Value → Prop} (null : motive .null)
    (bool : ∀ b, motive (.bool b)) (number : ∀ n, motive (.number n))
    (string : ∀ s, motive (.string s))
    (array : ∀ items, (∀ v ∈ items, motive v) → motive (.array items))
    (object : ∀ members, (∀ m ∈ members, motive m.2) → motive (.object members)) (v : Value) :
    motive v := by
  refine @Value.rec motive (fun items => ∀ v ∈ items, motive v)
    (fun members => ∀ m ∈ members, motive m.2) (fun m => motive m.2)
    null bool number string array object ?_ ?_ ?_ ?_ ?_ v
  · intro v hv
    simp at hv
  · intro v items hv hitems
    exact List.forall_mem_cons.mpr ⟨hv, hitems⟩
  · intro m hm
    simp at hm
  · intro m members hm hmembers
    exact List.forall_mem_cons.mpr ⟨hm, hmembers⟩
  · intro _ _ hv
    exact hv

mutual

/-- The numbers in a value, in the order in which they are written. -/
def Value.numbers : Value → List Number
  | .null | .bool _ | .string _ => []
  | .number n => [n]
  | .array items => itemNumbers items
  | .object members => memberNumbers members

/-- The numbers in the items of an array. -/
def itemNumbers : List Value → List Number
  | [] => []
  | v :: more => v.numbers ++ itemNumbers more

/-- The numbers in the members of an object. -/
def memberNumbers : List (String × Value) → List Number
  | [] => []
  | (_, v) :: more => v.numbers ++ memberNumbers more

end

theorem mem_itemNumbers {items : List Value} {n : Number} :
    n ∈ itemNumbers items ↔ ∃ v ∈ items, n ∈ v.numbers := by
  induction items with
  | nil => simp [itemNumbers]
  | cons v items ih => simp [itemNumbers, ih]

theorem mem_memberNumbers {members : List (String × Value)} {n : Number} :
    n ∈ memberNumbers members ↔ ∃ m ∈ members, n ∈ m.2.numbers := by
  induction members with
  | nil => simp [memberNumbers]
  | cons m members ih => simp [memberNumbers, ih]

mutual

/-- The tokens of a value. -/
def Value.tokens : Value → List Token
  | .null => [.null]
  | .bool b => [.bool b]
  | .number n => [.number n]
  | .string s => [.string s]
  | .array items => .openArray :: (itemTokens items ++ [.closeArray])
  | .object members => .openObject :: (memberTokens members ++ [.closeObject])

/-- The tokens of the items of an array. -/
def itemTokens : List Value → List Token
  | [] => []
  | [v] => v.tokens
  | v :: w :: more => v.tokens ++ .comma :: itemTokens (w :: more)

/-- The tokens of the members of an object. -/
def memberTokens : List (String × Value) → List Token
  | [] => []
  | [(k, v)] => .string k :: .colon :: v.tokens
  | (k, v) :: m :: more =>
    .string k :: .colon :: (v.tokens ++ .comma :: memberTokens (m :: more))

end

/-! ## Marks and words -/

theorem scan_mark {c : Char} {t : Token} (hs : isSpace c = false) (hm : mark? c = some t)
    (rest : List Char) : scan (c :: rest) = (scan rest).map (t :: ·) :=
  scan_of_lexeme? hs (by simp [lexeme?, hm])

theorem scan_literal (c : Char) {word : List Char} {t : Token} (hs : isSpace c = false)
    (hm : mark? c = none) (hl : literal? c = some (word, t)) (rest : List Char) :
    scan (c :: (word ++ rest)) = (scan rest).map (t :: ·) := by
  refine scan_of_lexeme? hs ?_
  simp [lexeme?, hm, hl, afterWord?]

theorem endsNumeral_newLine (depth : Nat) (rest : List Char) : EndsNumeral (newLine depth rest) :=
  endsNumeral_cons (by decide) (by decide) _

theorem endsNumeral_comma (rest : List Char) : EndsNumeral (',' :: rest) :=
  endsNumeral_cons (by decide) (by decide) rest

/-! ## Indented text -/

/-- Whether a way to write values gives the tokens of the value `v`, whatever follows. -/
def Value.ScansAs (v : Value) (write : List Char → List Char) : Prop :=
  ∀ rest, EndsNumeral rest → scan (write rest) = (scan rest).map (v.tokens ++ ·)

theorem scan_indentedItems {items : List Value}
    (h : ∀ v ∈ items, ∀ depth, v.ScansAs (v.indentedBefore depth)) (depth : Nat)
    {rest : List Char} (hrest : EndsNumeral rest) :
    scan (indentedItems depth items rest) = (scan rest).map (itemTokens items ++ ·) := by
  induction items with
  | nil => simp [indentedItems, itemTokens]
  | cons v more ih =>
    rw [List.forall_mem_cons] at h
    cases more with
    | nil => rw [indentedItems, scan_newLine, h.1 depth rest hrest, itemTokens]
    | cons w more =>
      rw [indentedItems, scan_newLine, h.1 depth _ (endsNumeral_comma _),
        scan_mark (by decide) rfl, ih h.2, itemTokens]
      simp [Function.comp_def]

theorem scan_indentedMembers {members : List (String × Value)}
    (h : ∀ m ∈ members, ∀ depth, m.2.ScansAs (m.2.indentedBefore depth)) (depth : Nat)
    {rest : List Char} (hrest : EndsNumeral rest) :
    scan (indentedMembers depth members rest) = (scan rest).map (memberTokens members ++ ·) := by
  induction members with
  | nil => simp [indentedMembers, memberTokens]
  | cons m more ih =>
    obtain ⟨k, v⟩ := m
    rw [List.forall_mem_cons] at h
    cases more with
    | nil =>
      rw [indentedMembers, scan_newLine, scan_stringBefore, scan_mark (by decide) rfl,
        scan_space (by decide), h.1 depth rest hrest, memberTokens]
      simp [Function.comp_def]
    | cons w more =>
      rw [indentedMembers, scan_newLine, scan_stringBefore, scan_mark (by decide) rfl,
        scan_space (by decide), h.1 depth _ (endsNumeral_comma _), scan_mark (by decide) rfl,
        ih h.2, memberTokens]
      simp [Function.comp_def]

/-- **The indented text of a value has its tokens.** -/
theorem scan_indentedBefore {v : Value} (h : ∀ n ∈ v.numbers, n.ReadsBack) (depth : Nat) :
    v.ScansAs (v.indentedBefore depth) := by
  induction v using Value.induction generalizing depth with
  | null =>
    intro rest _
    exact scan_literal 'n' (by decide) rfl rfl rest
  | bool b =>
    intro rest _
    cases b with
    | true => exact scan_literal 't' (by decide) rfl rfl rest
    | false => exact scan_literal 'f' (by decide) rfl rfl rest
  | number n =>
    intro rest hrest
    exact Number.scan_chars (h n (by simp [Value.numbers])) hrest
  | string s =>
    intro rest _
    exact scan_stringBefore s rest
  | array items ih =>
    intro rest hrest
    -- A number at the end of an item is followed by a comma or a new line, so it ends there.
    have hitems : ∀ v ∈ items, ∀ d, v.ScansAs (v.indentedBefore d) := fun v hv d =>
      ih v hv (fun n hn => h n (mem_itemNumbers.mpr ⟨v, hv, hn⟩)) d
    cases items with
    | nil =>
      rw [Value.indentedBefore, scan_mark (by decide) rfl, scan_mark (by decide) rfl]
      simp [Value.tokens, itemTokens, Function.comp_def]
    | cons v more =>
      rw [Value.indentedBefore, scan_mark (by decide) rfl,
        scan_indentedItems hitems _ (endsNumeral_newLine _ _), scan_newLine,
        scan_mark (by decide) rfl, Value.tokens]
      simp [Function.comp_def]
  | object members ih =>
    intro rest hrest
    have hmembers : ∀ m ∈ members, ∀ d, m.2.ScansAs (m.2.indentedBefore d) := fun m hm d =>
      ih m hm (fun n hn => h n (mem_memberNumbers.mpr ⟨m, hm, hn⟩)) d
    cases members with
    | nil =>
      rw [Value.indentedBefore, scan_mark (by decide) rfl, scan_mark (by decide) rfl]
      simp [Value.tokens, memberTokens, Function.comp_def]
    | cons m more =>
      rw [Value.indentedBefore, scan_mark (by decide) rfl,
        scan_indentedMembers hmembers _ (endsNumeral_newLine _ _), scan_newLine,
        scan_mark (by decide) rfl, Value.tokens]
      simp [Function.comp_def]

/-! ## What follows a written value -/

theorem stringBefore_append (s : String) (rest more : List Char) :
    stringBefore s rest ++ more = stringBefore s (rest ++ more) := by
  simp [stringBefore]

theorem newLine_append (depth : Nat) (rest more : List Char) :
    newLine depth rest ++ more = newLine depth (rest ++ more) := by
  simp [newLine]

theorem indentedItems_append {items : List Value}
    (h : ∀ v ∈ items, ∀ depth rest more,
      v.indentedBefore depth rest ++ more = v.indentedBefore depth (rest ++ more))
    (depth : Nat) (rest more : List Char) :
    indentedItems depth items rest ++ more = indentedItems depth items (rest ++ more) := by
  induction items with
  | nil => rfl
  | cons v tail ih =>
    rw [List.forall_mem_cons] at h
    cases tail with
    | nil => rw [indentedItems, indentedItems, newLine_append, h.1]
    | cons w tail =>
      rw [indentedItems, indentedItems, newLine_append, h.1, List.cons_append, ih h.2]

theorem indentedMembers_append {members : List (String × Value)}
    (h : ∀ m ∈ members, ∀ depth rest more,
      m.2.indentedBefore depth rest ++ more = m.2.indentedBefore depth (rest ++ more))
    (depth : Nat) (rest more : List Char) :
    indentedMembers depth members rest ++ more = indentedMembers depth members (rest ++ more) := by
  induction members with
  | nil => rfl
  | cons m tail ih =>
    obtain ⟨k, v⟩ := m
    rw [List.forall_mem_cons] at h
    cases tail with
    | nil =>
      rw [indentedMembers, indentedMembers, newLine_append, stringBefore_append, List.cons_append,
        List.cons_append, h.1]
    | cons w tail =>
      rw [indentedMembers, indentedMembers, newLine_append, stringBefore_append, List.cons_append,
        List.cons_append, h.1, List.cons_append, ih h.2]

/-- What is put behind the text of a value stands behind it. -/
theorem indentedBefore_append (v : Value) (depth : Nat) (rest more : List Char) :
    v.indentedBefore depth rest ++ more = v.indentedBefore depth (rest ++ more) := by
  induction v using Value.induction generalizing depth rest more with
  | null => rfl
  | bool b => cases b <;> rfl
  | number n => exact List.append_assoc _ _ _
  | string s => exact stringBefore_append s rest more
  | array items ih =>
    cases items with
    | nil => rfl
    | cons v tail =>
      rw [Value.indentedBefore, Value.indentedBefore, List.cons_append, indentedItems_append ih,
        newLine_append, List.cons_append]
  | object members ih =>
    cases members with
    | nil => rfl
    | cons m tail =>
      rw [Value.indentedBefore, Value.indentedBefore, List.cons_append, indentedMembers_append ih,
        newLine_append, List.cons_append]

end EntitySlice.Json
