import EntitySlice.Json.Value

/-!
# JSON tokens

The lexical half of reading JSON: a text is a sequence of marks, literals, numbers and strings with
white space between them. `scan` returns the tokens of a text, or nothing if some part of it is no
token. Every token takes at least one character (`length_lt_of_lexeme?`), which is why the scan
ends.
-/

namespace EntitySlice.Json

open EntitySlice.Number

/-- A token of JSON text. -/
inductive Token
  | openArray | closeArray | openObject | closeObject | comma | colon
  | null
  | bool (b : Bool)
  | number (n : Number)
  | string (s : String)
  deriving DecidableEq, Repr

/-- The white space of JSON. -/
def isSpace (c : Char) : Bool :=
  c = ' ' || c = '\t' || c = '\n' || c = '\r'

/-! ## Numbers -/

/-- The value of a digit. -/
def digitValue (c : Char) : Nat :=
  c.toNat - '0'.toNat

/-- The greatest significand: 64 bits. -/
def maxSignificand : Nat := Nat.pow 2 64 - 1

/-- The leading digits that fit a significand grown from `significand`, and what is left of them. -/
def takeDigits (significand : Nat) : List Char → Nat × List Char
  | [] => (significand, [])
  | c :: rest =>
    if significand * 10 + digitValue c ≤ maxSignificand then
      takeDigits (significand * 10 + digitValue c) rest
    else (significand, c :: rest)

/-- A number as it is spelled. -/
structure Numeral where
  negative : Bool
  whole : List Char
  fraction : List Char
  exponent : Option Int

/--
The floating-point number that a numeral is read as. The significand takes digits as long as it
stays within 64 bits; digits of the whole part that come after that count as a power of ten, digits
of the fraction not at all.
-/
def Numeral.float? (n : Numeral) : Option Finite64 :=
  let (significand, dropped) := takeDigits 0 n.whole
  let (significand, unread) := takeDigits significand n.fraction
  Finite64.ofScaled n.negative significand
    ((dropped.length : Int) - (n.fraction.length - unread.length) + n.exponent.getD 0)

/-- The value of a numeral; `none` if it is beyond every floating-point number. -/
def Numeral.value? (n : Numeral) : Option Number :=
  let (magnitude, dropped) := takeDigits 0 n.whole
  if n.fraction.isEmpty && n.exponent.isNone && dropped.isEmpty then
    if !n.negative then some (.integer magnitude)
    else if 0 < magnitude ∧ magnitude ≤ Nat.pow 2 63 then some (.integer (-(magnitude : Int)))
    else n.float?.map .float
  else n.float?.map .float

/-- The digits at the front of a text, and the rest. -/
def spanDigits (cs : List Char) : List Char × List Char :=
  (cs.takeWhile Char.isDigit, cs.dropWhile Char.isDigit)

/-- The whole part of a numeral: a zero alone, or digits that do not start with one. -/
def spanWhole (cs : List Char) : Option (List Char × List Char) :=
  let (whole, rest) := spanDigits cs
  if whole.isEmpty || (whole.head? = some '0' && whole.length ≠ 1) then none
  else some (whole, rest)

/-- Digits that have to be there, and the rest. -/
def spanSomeDigits (cs : List Char) : Option (List Char × List Char) :=
  let (digits, rest) := spanDigits cs
  if digits.isEmpty then none else some (digits, rest)

/-- The fraction of a numeral, empty unless a point comes first. -/
def spanFraction : List Char → Option (List Char × List Char)
  | [] => some ([], [])
  | c :: rest => if c = '.' then spanSomeDigits rest else some ([], c :: rest)

/-- The number that digits spell. -/
def digitsValue (ds : List Char) : Nat :=
  ds.foldl (fun n c => n * 10 + digitValue c) 0

/-- The sign at the front of an exponent, and the rest. -/
def spanSign : List Char → Bool × List Char
  | [] => (false, [])
  | c :: rest =>
    if c = '+' then (false, rest) else if c = '-' then (true, rest) else (false, c :: rest)

/-- The exponent of a numeral, absent unless an `e` comes first. -/
def spanExponent : List Char → Option (Option Int × List Char)
  | [] => some (none, [])
  | c :: rest =>
    if c = 'e' || c = 'E' then
      let (negative, rest) := spanSign rest
      (spanSomeDigits rest).map fun (ds, rest) =>
        (some (if negative then -(digitsValue ds : Int) else digitsValue ds), rest)
    else some (none, c :: rest)

/-- The number at the front of a text whose sign has been read. -/
def lexNumber (negative : Bool) (cs : List Char) : Option (Number × List Char) := do
  let (whole, rest) ← spanWhole cs
  let (fraction, rest) ← spanFraction rest
  let (exponent, rest) ← spanExponent rest
  let n ← Numeral.value? { negative, whole, fraction, exponent }
  return (n, rest)

/-! ## Strings -/

/-- The value of a hexadecimal digit. -/
def hexValue? (c : Char) : Option Nat :=
  if '0' ≤ c ∧ c ≤ '9' then some (c.toNat - '0'.toNat)
  else if 'a' ≤ c ∧ c ≤ 'f' then some (c.toNat - 'a'.toNat + 10)
  else if 'A' ≤ c ∧ c ≤ 'F' then some (c.toNat - 'A'.toNat + 10)
  else none

/-- The number that four hexadecimal digits spell. -/
def hexQuad? (a b c d : Char) : Option Nat := do
  return (← hexValue? a) * 4096 + (← hexValue? b) * 256 + (← hexValue? c) * 16 + (← hexValue? d)

/-- The character of a letter that stands after a backslash. -/
def simpleEscape? (c : Char) : Option Char :=
  if c = '"' then some '"'
  else if c = '\\' then some '\\'
  else if c = '/' then some '/'
  else if c = 'b' then some '\x08'
  else if c = 'f' then some '\x0c'
  else if c = 'n' then some '\n'
  else if c = 'r' then some '\r'
  else if c = 't' then some '\t'
  else none

/-- Whether the unit is the first half of a surrogate pair. -/
def isHighSurrogate (n : Nat) : Bool := 0xD800 ≤ n && n ≤ 0xDBFF

/-- Whether the unit is the second half of a surrogate pair. -/
def isLowSurrogate (n : Nat) : Bool := 0xDC00 ≤ n && n ≤ 0xDFFF

/-- The character that the two halves of a surrogate pair stand for. -/
def pairedChar (high low : Nat) : Char :=
  Char.ofNat ((high - 0xD800) * 1024 + (low - 0xDC00) + 0x10000)

/-- The rest of a string whose characters so far are `done`, last first; its quote is read too. -/
def lexString (done : List Char) : List Char → Option (String × List Char)
  | [] => none
  | '"' :: rest => some (String.ofList done.reverse, rest)
  | '\\' :: 'u' :: a :: b :: c :: d :: rest =>
    match hexQuad? a b c d with
    | none => none
    | some high =>
      if isLowSurrogate high then none
      else if isHighSurrogate high then
        match rest with
        | '\\' :: 'u' :: a :: b :: c :: d :: rest =>
          match hexQuad? a b c d with
          | none => none
          | some low =>
            if isLowSurrogate low then lexString (pairedChar high low :: done) rest else none
        | _ => none
      else lexString (Char.ofNat high :: done) rest
  | '\\' :: e :: rest =>
    match simpleEscape? e with
    | some c => lexString (c :: done) rest
    | none => none
  | c :: rest => if c.toNat < 0x20 || c = '\\' then none else lexString (c :: done) rest

/-! ## Tokens -/

/-- What is left of a text after a word. -/
def afterWord? (word : List Char) (cs : List Char) : Option (List Char) :=
  if word.isPrefixOf cs then some (cs.drop word.length) else none

/-- The token that a single character is. -/
def mark? (c : Char) : Option Token :=
  if c = '[' then some .openArray
  else if c = ']' then some .closeArray
  else if c = '\x7b' then some .openObject
  else if c = '\x7d' then some .closeObject
  else if c = ',' then some .comma
  else if c = ':' then some .colon
  else none

/-- The word that a literal goes on with after its first letter, and its token. -/
def literal? (c : Char) : Option (List Char × Token) :=
  if c = 'n' then some (['u', 'l', 'l'], .null)
  else if c = 't' then some (['r', 'u', 'e'], .bool true)
  else if c = 'f' then some (['a', 'l', 's', 'e'], .bool false)
  else none

/-- The token that starts with the character `c`, which is no white space, and what follows it. -/
def lexeme? (c : Char) (rest : List Char) : Option (Token × List Char) :=
  match mark? c, literal? c with
  | some t, _ => some (t, rest)
  | none, some (word, t) => (afterWord? word rest).map (Prod.mk t)
  | none, none =>
    if c = '"' then (lexString [] rest).map (Prod.map .string id)
    else if c = '-' then (lexNumber true rest).map (Prod.map .number id)
    else (lexNumber false (c :: rest)).map (Prod.map .number id)

/-! ## Every token takes a character -/

theorem suffix_spanDigits (cs : List Char) : (spanDigits cs).2 <:+ cs :=
  List.dropWhile_suffix _

theorem suffix_of_spanSomeDigits {cs ds rest : List Char}
    (h : spanSomeDigits cs = some (ds, rest)) : rest <:+ cs := by
  simp only [spanSomeDigits, Option.ite_none_left_eq_some, Option.some.injEq, Prod.mk.injEq] at h
  exact h.2.2 ▸ suffix_spanDigits cs

theorem length_lt_of_spanWhole {cs whole rest : List Char} (h : spanWhole cs = some (whole, rest)) :
    rest.length < cs.length := by
  simp only [spanWhole, spanDigits, Option.ite_none_left_eq_some, Bool.or_eq_true, not_or,
    List.isEmpty_iff, Option.some.injEq, Prod.mk.injEq] at h
  obtain ⟨⟨hne, -⟩, -, rfl⟩ := h
  have hl : (cs.takeWhile Char.isDigit).length + (cs.dropWhile Char.isDigit).length
      = cs.length := by
    rw [← List.length_append, List.takeWhile_append_dropWhile]
  have := List.length_pos_iff.2 hne
  omega

theorem suffix_of_spanFraction {cs fraction rest : List Char}
    (h : spanFraction cs = some (fraction, rest)) : rest <:+ cs := by
  cases cs with
  | nil => simp_all [spanFraction]
  | cons c tail =>
    rw [spanFraction] at h
    split at h
    · exact (suffix_of_spanSomeDigits h).trans (List.suffix_cons _ _)
    · simp_all

theorem suffix_spanSign (cs : List Char) : (spanSign cs).2 <:+ cs := by
  cases cs with
  | nil => simp [spanSign]
  | cons c tail =>
    rw [spanSign]
    split
    · exact List.suffix_cons _ _
    · split
      · exact List.suffix_cons _ _
      · exact List.suffix_refl _

theorem suffix_of_spanExponent {cs rest : List Char} {e : Option Int}
    (h : spanExponent cs = some (e, rest)) : rest <:+ cs := by
  cases cs with
  | nil => simp_all [spanExponent]
  | cons c tail =>
    rw [spanExponent] at h
    split at h
    · simp only [Option.map_eq_some_iff, Prod.mk.injEq, Prod.exists] at h
      obtain ⟨ds, r, hr, -, rfl⟩ := h
      exact ((suffix_of_spanSomeDigits hr).trans (suffix_spanSign tail)).trans
        (List.suffix_cons _ _)
    · simp_all

theorem length_lt_of_lexNumber {negative : Bool} {cs rest : List Char} {n : Number}
    (h : lexNumber negative cs = some (n, rest)) : rest.length < cs.length := by
  simp only [lexNumber, Option.bind_eq_bind, Option.bind_eq_some_iff, Prod.exists, Option.pure_def,
    Option.some.injEq, Prod.mk.injEq] at h
  obtain ⟨_, _, hw, _, _, hf, _, _, he, _, _, _, rfl⟩ := h
  have h1 := length_lt_of_spanWhole hw
  have h2 := (suffix_of_spanFraction hf).length_le
  have h3 := (suffix_of_spanExponent he).length_le
  omega

theorem length_lt_of_lexString {done cs rest : List Char} {s : String}
    (h : lexString done cs = some (s, rest)) : rest.length < cs.length := by
  fun_induction lexString done cs <;> simp_all <;> omega

theorem suffix_of_afterWord? {word cs rest : List Char} (h : afterWord? word cs = some rest) :
    rest <:+ cs := by
  simp only [afterWord?, Option.ite_none_right_eq_some, Option.some.injEq] at h
  exact h.2 ▸ List.drop_suffix _ _

theorem length_lt_of_lexeme? {c : Char} {rest rest' : List Char} {t : Token}
    (h : lexeme? c rest = some (t, rest')) : rest'.length < (c :: rest).length := by
  unfold lexeme? at h
  split at h
  · simp only [Option.some.injEq, Prod.mk.injEq] at h
    simp [h.2]
  · simp only [Option.map_eq_some_iff, Prod.mk.injEq] at h
    obtain ⟨r, hr, -, rfl⟩ := h
    exact Nat.lt_succ_of_le (suffix_of_afterWord? hr).length_le
  · split at h
    · simp only [Option.map_eq_some_iff, Prod.exists, Prod.map, Prod.mk.injEq, id] at h
      obtain ⟨_, _, hr, -, rfl⟩ := h
      exact Nat.lt_succ_of_lt (length_lt_of_lexString hr)
    · split at h
      all_goals
        simp only [Option.map_eq_some_iff, Prod.exists, Prod.map, Prod.mk.injEq, id] at h
        obtain ⟨_, _, hr, -, rfl⟩ := h
      · exact Nat.lt_succ_of_lt (length_lt_of_lexNumber hr)
      · exact length_lt_of_lexNumber hr

/-- The tokens of a text that follows the tokens `done`, last first. -/
def scanAfter (done : List Token) : List Char → Option (List Token)
  | [] => some done.reverse
  | c :: rest =>
    if isSpace c then scanAfter done rest
    else
      match _h : lexeme? c rest with
      | none => none
      | some (t, rest') => scanAfter (t :: done) rest'
termination_by cs => cs.length
decreasing_by
  · exact Nat.lt_succ_self _
  · exact length_lt_of_lexeme? _h

/-- The tokens of a text, or nothing if some part of it is no token. -/
def scan (cs : List Char) : Option (List Token) :=
  scanAfter [] cs

end EntitySlice.Json
