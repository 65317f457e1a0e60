import EntitySlice.Text.CaseTable

/-!
# Upper and lower case

Full case mapping: a character may turn into several, and a capital sigma at the end of a word is
lower-cased to its final form. Without a capital sigma both mappings work character by character.
-/

namespace EntitySlice.Text

/-- One character mapped by a list of runs or, failing that, by a list of expansions. -/
def mapChar (runs : List CaseRun) (expansions : List (Nat × List Nat)) (c : Char) : List Char :=
  match CaseRun.find? runs c.toNat with
  | some n => [Char.ofNat n]
  | none =>
    match expansions.lookup c.toNat with
    | some ns => ns.map Char.ofNat
    | none => [c]

/-- The upper-case form of one character. -/
def upperChar (c : Char) : List Char :=
  mapChar CaseTable.upperRuns CaseTable.upperExpansions c

/-- The lower-case form of one character that stands alone. -/
def lowerChar (c : Char) : List Char :=
  mapChar CaseTable.lowerRuns CaseTable.lowerExpansions c

/-- The upper-case form of a text. -/
def upperChars (cs : List Char) : List Char :=
  cs.flatMap upperChar

/-- The lower-case form of a text, taken character by character. -/
def lowerEach (cs : List Char) : List Char :=
  cs.flatMap lowerChar

/-- Whether a letter with case comes first once the signs without a say are skipped. -/
def startsCased (cs : List Char) : Bool :=
  match cs.dropWhile CaseTable.caseIgnorable.has with
  | [] => false
  | c :: _ => CaseTable.cased.has c

/-- The lower-case sigma between `before`, nearest character first, and `after`. -/
def lowerSigma (before after : List Char) : Char :=
  if startsCased before && !startsCased after then 'ς' else 'σ'

/-- The lower-case form of a text that follows `before`, nearest character first. -/
def lowerAfter (before : List Char) : List Char → List Char
  | [] => []
  | c :: rest =>
    (if c = 'Σ' then [lowerSigma before rest] else lowerChar c) ++ lowerAfter (c :: before) rest

/-- The lower-case form of a text. -/
def lowerChars (cs : List Char) : List Char :=
  lowerAfter [] cs

/-- The lower-case form of a text. -/
def lower (s : String) : String :=
  String.ofList (lowerChars s.toList)

/-- Only a capital sigma looks at its neighbours. -/
theorem lowerAfter_eq_lowerEach (before : List Char) {cs : List Char} (h : 'Σ' ∉ cs) :
    lowerAfter before cs = lowerEach cs := by
  induction cs generalizing before with
  | nil => rfl
  | cons c rest ih =>
    have hc : c ≠ 'Σ' := fun e => h (e ▸ List.mem_cons_self)
    rw [lowerAfter, if_neg hc, ih _ (fun m => h (List.mem_cons_of_mem _ m))]
    rfl

/-- A capital letter of the ASCII alphabet as a small one; any other character as it is. -/
def asciiLower (c : Char) : Char :=
  if 'A' ≤ c ∧ c ≤ 'Z' then Char.ofNat (c.toNat + 32) else c

/-- A small letter of the ASCII alphabet as a capital; any other character as it is. -/
def asciiUpper (c : Char) : Char :=
  if 'a' ≤ c ∧ c ≤ 'z' then Char.ofNat (c.toNat - 32) else c

/-- The text with its first character made a capital, if it is a small ASCII letter. -/
def capitalizeAscii (s : String) : String :=
  match s.toList with
  | [] => ""
  | c :: rest => String.ofList (asciiUpper c :: rest)

end EntitySlice.Text
