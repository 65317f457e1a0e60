import EntitySlice.Proofs.Json.Nesting

/-!
# Compact text is read back

Text without spaces has the tokens of its value too (`scan_compactBefore`), so it is read as the
value that it was written for (`parse?_compact`).
-/

namespace EntitySlice.Json

theorem endsNumeral_closeArray (rest : List Char) : EndsNumeral (']' :: rest) :=
  endsNumeral_cons (by decide) (by decide) rest

theorem endsNumeral_closeObject (rest : List Char) : EndsNumeral ('\x7d' :: rest) :=
  endsNumeral_cons (by decide) (by decide) rest

theorem scan_compactItems {items : List Value} (h : ∀ v ∈ items, v.ScansAs v.compactBefore)
    {rest : List Char} (hrest : EndsNumeral rest) :
    scan (compactItems items rest) = (scan rest).map (itemTokens items ++ ·) := by
  induction items with
  | nil => simp [compactItems, itemTokens]
  | cons v more ih =>
    rw [List.forall_mem_cons] at h
    cases more with
    | nil => rw [compactItems, h.1 rest hrest, itemTokens]
    | cons w more =>
      rw [compactItems, h.1 _ (endsNumeral_comma _), scan_mark (by decide) rfl, ih h.2, itemTokens]
      simp [Function.comp_def]

theorem scan_compactMembers {members : List (String × Value)}
    (h : ∀ m ∈ members, m.2.ScansAs m.2.compactBefore) {rest : List Char}
    (hrest : EndsNumeral rest) :
    scan (compactMembers members rest) = (scan rest).map (memberTokens members ++ ·) := by
  induction members with
  | nil => simp [compactMembers, memberTokens]
  | cons m more ih =>
    obtain ⟨k, v⟩ := m
    rw [List.forall_mem_cons] at h
    cases more with
    | nil =>
      rw [compactMembers, scan_stringBefore, scan_mark (by decide) rfl, h.1 rest hrest,
        memberTokens]
      simp [Function.comp_def]
    | cons w more =>
      rw [compactMembers, scan_stringBefore, scan_mark (by decide) rfl,
        h.1 _ (endsNumeral_comma _), scan_mark (by decide) rfl, ih h.2, memberTokens]
      simp [Function.comp_def]

/-- **The compact text of a value has its tokens.** -/
theorem scan_compactBefore {v : Value} (h : ∀ n ∈ v.numbers, n.ReadsBack) :
    v.ScansAs v.compactBefore := by
  induction v using Value.induction with
  | null =>
    intro rest _
    exact scan_literal 'n' (by decide) rfl rfl rest
  | bool b =>
    intro rest _
    cases b with
    | true => exact scan_literal 't' (by decide) rfl rfl rest
    | false => exact scan_literal 'f' (by decide) rfl rfl rest
  | number n =>
    intro rest hrest
    exact Number.scan_chars (h n (by simp [Value.numbers])) hrest
  | string s =>
    intro rest _
    exact scan_stringBefore s rest
  | array items ih =>
    intro rest _
    have hitems : ∀ v ∈ items, v.ScansAs v.compactBefore := fun v hv =>
      ih v hv fun n hn => h n (mem_itemNumbers.mpr ⟨v, hv, hn⟩)
    rw [Value.compactBefore, scan_mark (by decide) rfl,
      scan_compactItems hitems (endsNumeral_closeArray _), scan_mark (by decide) rfl, Value.tokens]
    simp [Function.comp_def]
  | object members ih =>
    intro rest _
    have hmembers : ∀ m ∈ members, m.2.ScansAs m.2.compactBefore := fun m hm =>
      ih m hm fun n hn => h n (mem_memberNumbers.mpr ⟨m, hm, hn⟩)
    rw [Value.compactBefore, scan_mark (by decide) rfl,
      scan_compactMembers hmembers (endsNumeral_closeObject _), scan_mark (by decide) rfl,
      Value.tokens]
    simp [Function.comp_def]

/-- **A readable value is what its compact text is read as**, if the floating-point numbers in it
read back. -/
theorem parse?_compact {v : Value} (h : v.Readable maxDepth) (hx : v.FloatsReadBack) :
    parse? v.compact = some v := by
  have hscan := scan_compactBefore (h.readsBack hx) [] endsNumeral_nil
  rw [scan_nil] at hscan
  rw [parse?, Value.compact, String.toList_ofList, hscan]
  simpa using ofTokens?_tokens h

end EntitySlice.Json
