import EntitySlice.Proofs.Json.Numeral

/-!
# Scanning a text token by token

`scan` goes through a text token by token, so what is scanned of a text is the first token and what
is scanned behind it (`scan_lexeme`). Escaped characters are read as the characters they stand for
(`lexString_escaped`), and a number that reads back is one token wherever a numeral can end
(`Number.scan_chars`). Whole numbers within 64 bits always read back
(`Number.readsBack_integer`).
-/

namespace EntitySlice.Json

open EntitySlice.Number

/-! ## One token after the other -/

theorem scanAfter_append (done more : List Token) (cs : List Char) :
    scanAfter (done ++ more) cs = (scanAfter done cs).map (more.reverse ++ ·) := by
  fun_induction scanAfter done cs with
  | case1 done => simp [scanAfter]
  | case2 done c rest hs ih => rw [scanAfter, if_pos hs, ih]
  | case3 done c rest hs h =>
    rw [scanAfter, if_neg hs]
    split
    · rfl
    · next t r hr =>
      rw [h] at hr
      simp at hr
  | case4 done c rest hs t r h ih =>
    rw [scanAfter, if_neg hs]
    split
    · next hr =>
      rw [h] at hr
      simp at hr
    · next t' r' hr =>
      obtain ⟨rfl, rfl⟩ := Prod.mk.inj (Option.some.inj (h.symm.trans hr))
      exact ih

theorem scan_nil : scan [] = some [] := by
  rw [scan, scanAfter]
  rfl

theorem scan_space {c : Char} (h : isSpace c = true) (rest : List Char) :
    scan (c :: rest) = scan rest := by
  rw [scan, scanAfter, if_pos h]
  rfl

/-- **What is scanned of a text is its first token and what is scanned behind it.** -/
theorem scan_lexeme {c : Char} (h : isSpace c = false) (rest : List Char) :
    scan (c :: rest) = (lexeme? c rest).bind fun l => (scan l.2).map (l.1 :: ·) := by
  rw [scan, scanAfter, if_neg (by simp [h])]
  split
  · next hl => rw [hl, Option.bind_none]
  · next t r hl =>
    rw [hl, Option.bind_some]
    exact scanAfter_append [] [t] r

theorem scan_of_lexeme? {c : Char} {rest r : List Char} {t : Token} (h : isSpace c = false)
    (hl : lexeme? c rest = some (t, r)) : scan (c :: rest) = (scan r).map (t :: ·) := by
  rw [scan_lexeme h, hl, Option.bind_some]

/-- A text without a token is white space. -/
theorem isSpace_of_scan {c : Char} {rest : List Char} (h : scan (c :: rest) = some []) :
    isSpace c = true := by
  by_contra hs
  rw [scan_lexeme (by simpa using hs)] at h
  obtain ⟨l, -, hl⟩ := Option.bind_eq_some_iff.mp h
  simp at hl

/-- A line break and the indentation after it are white space. -/
theorem scan_newLine (depth : Nat) (rest : List Char) : scan (newLine depth rest) = scan rest := by
  have hspaces : ∀ n, scan (List.replicate n ' ' ++ rest) = scan rest := by
    intro n
    induction n with
    | zero => rfl
    | succ n ih =>
      rw [List.replicate_succ, List.cons_append, scan_space (by decide), ih]
  rw [newLine, scan_space (by decide), hspaces]

/-! ## Strings -/

theorem hexValue?_hexDigit {n : Nat} (h : n < 16) : hexValue? (hexDigit n) = some n := by
  have hall : ∀ m : Fin 16, hexValue? (hexDigit m.val) = some m.val := by decide
  exact hall ⟨n, h⟩

/-- The number of a control character in hexadecimal digits is read as that character. -/
theorem lexString_control {c : Char} (h : c.toNat < 0x20) (done rest : List Char) :
    lexString done
        ('\\' :: 'u' :: '0' :: '0' :: hexDigit (c.toNat / 16) :: hexDigit (c.toNat % 16) :: rest) =
      lexString (c :: done) rest := by
  have hzero : hexValue? '0' = some 0 := by decide
  have hquad : hexQuad? '0' '0' (hexDigit (c.toNat / 16)) (hexDigit (c.toNat % 16)) =
      some c.toNat := by
    have hsum : c.toNat / 16 * 16 + c.toNat % 16 = c.toNat := by omega
    simp [hexQuad?, hzero, hexValue?_hexDigit (show c.toNat / 16 < 16 by omega),
      hexValue?_hexDigit (show c.toNat % 16 < 16 by omega), hsum]
  have hlow : isLowSurrogate c.toNat = false := by
    simp only [isLowSurrogate, Bool.and_eq_false_iff, decide_eq_false_iff_not]
    omega
  have hhigh : isHighSurrogate c.toNat = false := by
    simp only [isHighSurrogate, Bool.and_eq_false_iff, decide_eq_false_iff_not]
    omega
  rw [lexString, hquad]
  simp [hlow, hhigh, Char.ofNat_toNat]

/-- An escaped character is read as the character it stands for. -/
theorem lexString_escapeChar (c : Char) (done rest : List Char) :
    lexString done (escapeChar c ++ rest) = lexString (c :: done) rest := by
  unfold escapeChar
  split
  · next h => subst h; simp [lexString, simpleEscape?]
  split
  · next h => subst h; simp [lexString, simpleEscape?]
  split
  · next h => subst h; simp [lexString, simpleEscape?]
  split
  · next h => subst h; simp [lexString, simpleEscape?]
  split
  · next h => subst h; simp [lexString, simpleEscape?]
  split
  · next h => subst h; simp [lexString, simpleEscape?]
  split
  · next h => subst h; simp [lexString, simpleEscape?]
  split
  · next h => exact lexString_control h done rest
  · next hquote hslash _ _ _ _ _ hcontrol =>
    have hplain : ¬(decide (c.toNat < 0x20) || decide (c = '\\')) = true := by
      simp [hslash, hcontrol]
    rw [List.singleton_append, lexString, if_neg hplain]
    all_goals simp [hquote, hslash]

/-- **Reading the inside of a string undoes writing it, whatever follows the quote.** -/
theorem lexString_escaped (cs done rest : List Char) :
    lexString done (cs.flatMap escapeChar ++ '"' :: rest) =
      some (String.ofList (done.reverse ++ cs), rest) := by
  induction cs generalizing done with
  | nil => simp [lexString]
  | cons c cs ih =>
    rw [List.flatMap_cons, List.append_assoc, lexString_escapeChar, ih]
    simp

theorem scan_stringBefore (s : String) (rest : List Char) :
    scan (stringBefore s rest) = (scan rest).map (.string s :: ·) := by
  refine scan_of_lexeme? (by decide) ?_
  have hs := lexString_escaped s.toList [] rest
  rw [List.reverse_nil, List.nil_append, String.ofList_toList] at hs
  have hl : lexeme? '"' (s.toList.flatMap escapeChar ++ '"' :: rest) =
      (lexString [] (s.toList.flatMap escapeChar ++ '"' :: rest)).map (Prod.map .string id) := rfl
  rw [hl, hs]
  rfl

/-! ## Numbers -/

/-- Whether the number is what its own text is read as. -/
def Number.ReadsBack (n : Number) : Prop :=
  parse? (String.ofList n.chars) = some (.number n)

/-- The number that a value is. -/
def Value.number? : Value → Option Number
  | .number n => some n
  | _ => none

theorem Value.number?_eq_some_iff {v : Value} {n : Number} :
    v.number? = some n ↔ v = .number n := by
  cases v <;> simp [number?]

instance : DecidablePred Number.ReadsBack := fun n =>
  decidable_of_iff ((parse? (String.ofList n.chars)).bind Value.number? = some n) <| by
    simp [Option.bind_eq_some_iff, Value.number?_eq_some_iff, Number.ReadsBack]

/-- Whether the text starts with a digit and has no white space. -/
structure IsNumeral (cs : List Char) : Prop where
  startsWithDigit : ∃ c rest, cs = c :: rest ∧ c.isDigit = true
  noSpace : ∀ c ∈ cs, isSpace c = false

theorem isSpace_of_isDigit {c : Char} (h : c.isDigit = true) : isSpace c = false := by
  have hne : ∀ d : Char, d.isDigit = false → c ≠ d := by
    rintro d hd rfl
    rw [h] at hd
    simp at hd
  simp [isSpace, hne ' ' rfl, hne '\t' rfl, hne '\n' rfl, hne '\r' rfl]

theorem isNumeral_natChars (n : Nat) : IsNumeral (natChars n) := by
  have hdigit : ∀ c ∈ natChars n, c.isDigit = true := fun c hc =>
    Nat.isDigit_of_mem_toDigits (by decide) (by decide) hc
  have hne : natChars n ≠ [] := Nat.toDigits_ne_nil
  obtain ⟨c, rest, hc⟩ := List.exists_cons_of_ne_nil hne
  exact ⟨⟨c, rest, hc, hdigit c (by simp [hc])⟩, fun d hd => isSpace_of_isDigit (hdigit d hd)⟩

theorem IsNumeral.append {cs ds : List Char} (h : IsNumeral cs)
    (hds : ∀ c ∈ ds, isSpace c = false) : IsNumeral (cs ++ ds) := by
  obtain ⟨⟨c, rest, rfl, hc⟩, hs⟩ := h
  refine ⟨⟨c, rest ++ ds, rfl, hc⟩, fun d hd => ?_⟩
  rcases List.mem_append.mp hd with hd | hd
  · exact hs d hd
  · exact hds d hd

theorem IsNumeral.take {cs : List Char} (h : IsNumeral cs) {n : Nat} (hn : n ≠ 0) :
    IsNumeral (cs.take n) := by
  obtain ⟨⟨c, rest, rfl, hc⟩, hs⟩ := h
  obtain ⟨m, rfl⟩ := Nat.exists_eq_succ_of_ne_zero hn
  exact ⟨⟨c, rest.take m, List.take_succ_cons, hc⟩, fun d hd => hs d (List.mem_of_mem_take hd)⟩

theorem isNumeral_positional (d : Decimal) : IsNumeral (d.positional true) := by
  have hdigits : IsNumeral d.digits := isNumeral_natChars d.coefficient
  have hzeros : ∀ n, ∀ c ∈ List.replicate n '0', isSpace c = false := by
    intro n c hc
    rw [List.eq_of_mem_replicate hc]
    decide
  unfold Decimal.positional
  simp only
  split
  · exact (hdigits.append (hzeros _)).append (by simp [isSpace])
  · split
    · next hlt =>
      -- At least one digit stands before the point.
      refine (hdigits.take (by omega)).append fun c hc => ?_
      rcases List.mem_cons.mp hc with rfl | hc
      · decide
      · exact hdigits.noSpace c (List.mem_of_mem_drop hc)
    · refine ⟨⟨'0', _, rfl, by decide⟩, fun x hx => ?_⟩
      simp only [List.cons_append, List.mem_cons, List.mem_append] at hx
      rcases hx with rfl | rfl | hx | hx
      · decide
      · decide
      · exact hzeros _ x hx
      · exact hdigits.noSpace x hx

theorem isNumeral_scientific (d : Decimal) : IsNumeral d.scientific := by
  obtain ⟨⟨c, rest, hc, hd⟩, hs⟩ : IsNumeral d.digits := isNumeral_natChars d.coefficient
  unfold Decimal.scientific
  simp only
  refine IsNumeral.append ?_ ?_
  · rw [hc] at hs ⊢
    cases rest with
    | nil => exact ⟨⟨c, [], rfl, hd⟩, hs⟩
    | cons e rest =>
      refine ⟨⟨c, _, rfl, hd⟩, fun x hx => ?_⟩
      rcases List.mem_cons.mp hx with rfl | hx
      · exact hs x (by simp)
      · rcases List.mem_cons.mp hx with rfl | hx
        · decide
        · exact hs x (List.mem_cons_of_mem _ hx)
  · intro x hx
    simp only [List.mem_cons] at hx
    rcases hx with rfl | rfl | hx
    · decide
    · split <;> decide
    · exact (isNumeral_natChars _).noSpace x hx

/-- The text of a number is a numeral, perhaps with a sign before it. -/
theorem Number.exists_numeral (n : Number) :
    ∃ (negative : Bool) (cs : List Char),
      n.chars = (if negative then ['-'] else []) ++ cs ∧ IsNumeral cs := by
  cases n with
  | integer n =>
    refine ⟨decide (n < 0), natChars n.natAbs, ?_, isNumeral_natChars _⟩
    simp [chars, intChars]
  | float x =>
    refine ⟨x.negative, _, rfl, ?_⟩
    split
    · exact ⟨⟨'0', _, rfl, by decide⟩, by simp [isSpace]⟩
    · split
      · exact isNumeral_positional _
      · exact isNumeral_scientific _

theorem suffix_of_lexNumber {negative : Bool} {cs r : List Char} {n : Number}
    (h : lexNumber negative cs = some (n, r)) : r <:+ cs := by
  simp only [lexNumber, Option.bind_eq_bind, Option.bind_eq_some_iff, Prod.exists, Option.pure_def,
    Option.some.injEq, Prod.mk.injEq] at h
  obtain ⟨_, r₁, hw, _, r₂, hf, _, _, he, _, _, _, rfl⟩ := h
  have hwhole : r₁ <:+ cs := by
    simp only [spanWhole, Option.ite_none_left_eq_some, Option.some.injEq, Prod.mk.injEq] at hw
    exact hw.2.2 ▸ suffix_spanDigits cs
  exact (suffix_of_spanExponent he).trans ((suffix_of_spanFraction hf).trans hwhole)

/-- A numeral is scanned as a number, with or without a sign. -/
theorem scan_numeral (negative : Bool) {cs : List Char} (h : IsNumeral cs) (rest : List Char) :
    scan ((if negative then ['-'] else []) ++ (cs ++ rest)) =
      (lexNumber negative (cs ++ rest)).bind fun l => (scan l.2).map (.number l.1 :: ·) := by
  have hbind : ∀ o : Option (Number × List Char),
      ((o.map (Prod.map Token.number id)).bind fun l => (scan l.2).map (l.1 :: ·)) =
        o.bind fun l => (scan l.2).map (.number l.1 :: ·) := by
    intro o
    cases o <;> rfl
  cases negative with
  | true =>
    have hl : ∀ ds, lexeme? '-' ds = (lexNumber true ds).map (Prod.map .number id) := fun _ => rfl
    rw [if_pos rfl, List.singleton_append, scan_lexeme (by decide), hl, hbind]
  | false =>
    obtain ⟨c, ds, rfl, hc⟩ := h.startsWithDigit
    have hne : ∀ d : Char, d.isDigit = false → c ≠ d := by
      rintro d hd rfl
      rw [hc] at hd
      simp at hd
    have hmark : mark? c = none := by
      simp [mark?, hne '[' rfl, hne ']' rfl, hne '\x7b' rfl, hne '\x7d' rfl, hne ',' rfl,
        hne ':' rfl]
    have hliteral : literal? c = none := by
      simp [literal?, hne 'n' rfl, hne 't' rfl, hne 'f' rfl]
    have hl : lexeme? c (ds ++ rest) =
        (lexNumber false (c :: (ds ++ rest))).map (Prod.map .number id) := by
      simp [lexeme?, hmark, hliteral, hne '"' rfl, hne '-' rfl]
    rw [if_neg (by simp), List.nil_append, List.cons_append, scan_lexeme (h.noSpace c (by simp)), hl,
      hbind]

theorem eq_nil_of_ofTokens? {m n : Number} {ts : List Token}
    (h : ofTokens? (.number m :: ts) = some (.number n)) : m = n ∧ ts = [] := by
  cases ts with
  | nil => exact ⟨by simpa [ofTokens?, ReadState.run, ReadState.step, ReadState.start] using h, rfl⟩
  | cons t ts =>
    -- Nothing can stand behind the number.
    have hstep : (ReadState.after (.number m) []).step t = none := by cases t <;> rfl
    simp [ofTokens?, ReadState.run, ReadState.step, ReadState.start] at h

/-- A number that reads back is what is read of its numeral, and nothing is left. -/
theorem Number.ReadsBack.lexNumber {n : Number} (h : n.ReadsBack) {negative : Bool}
    {cs : List Char} (hchars : n.chars = (if negative then ['-'] else []) ++ cs)
    (hcs : IsNumeral cs) : lexNumber negative cs = some (n, []) := by
  unfold ReadsBack parse? at h
  rw [String.toList_ofList, hchars] at h
  have hscan := scan_numeral negative hcs []
  rw [List.append_nil] at hscan
  rw [hscan] at h
  obtain ⟨tokens, htokens, hread⟩ := Option.bind_eq_some_iff.mp h
  obtain ⟨⟨m, r⟩, hlex, hmap⟩ := Option.bind_eq_some_iff.mp htokens
  obtain ⟨more, hmore, rfl⟩ := Option.map_eq_some_iff.mp hmap
  obtain ⟨rfl, rfl⟩ := eq_nil_of_ofTokens? hread
  -- What is left of the numeral is white space, and it has none.
  have hr : r = [] := by
    cases r with
    | nil => rfl
    | cons c r =>
      have hc := hcs.noSpace c ((suffix_of_lexNumber hlex).subset (by simp))
      rw [isSpace_of_scan hmore] at hc
      simp at hc
  rw [hlex, hr]

/-- **A number that reads back is one token wherever a numeral can end.** -/
theorem Number.scan_chars {n : Number} (h : n.ReadsBack) {rest : List Char}
    (hrest : EndsNumeral rest) : scan (n.chars ++ rest) = (scan rest).map (.number n :: ·) := by
  obtain ⟨negative, cs, hchars, hcs⟩ := n.exists_numeral
  rw [hchars, List.append_assoc, scan_numeral negative hcs,
    lexNumber_append hrest (h.lexNumber hchars hcs), Option.bind_some, List.nil_append]

/-- **A whole number within 64 bits reads back.** -/
theorem Number.readsBack_integer {n : Int} (h : (Number.integer n).InRange) :
    (Number.integer n).ReadsBack := by
  obtain ⟨hlow, hhigh⟩ := h
  have hlex : lexNumber (decide (n < 0)) (natChars n.natAbs) = some (.integer n, []) := by
    have hmax : Nat.pow 2 63 ≤ maxSignificand := by decide
    have hsign : decide (n < 0) = true → 0 < n.natAbs ∧ n.natAbs ≤ Nat.pow 2 63 := by
      intro hn
      have hneg := of_decide_eq_true hn
      omega
    rw [lexNumber_natChars (by omega) hsign]
    have hvalue : (if decide (n < 0) = true then -(n.natAbs : Int) else n.natAbs) = n := by
      split
      · next hn =>
        have hneg := of_decide_eq_true hn
        omega
      · next hn =>
        have hpos : ¬n < 0 := fun h => hn (decide_eq_true h)
        omega
    rw [hvalue]
  have hscan := scan_numeral (decide (n < 0)) (isNumeral_natChars n.natAbs) []
  rw [List.append_nil, hlex, Option.bind_some, scan_nil] at hscan
  unfold ReadsBack parse?
  rw [String.toList_ofList, chars, intChars]
  simp only [decide_eq_true_eq] at hscan
  rw [hscan]
  rfl

end EntitySlice.Json
