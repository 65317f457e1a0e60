import EntitySlice.Number.Whole
import EntitySlice.Text.Blank

/-!
# Patterns in generated code

The regular expressions that generated code has for whole texts: what may stand one after the other,
and how often. A text matches if it can be cut into pieces that are allowed there. Only patterns of
this form are used, so a pattern is read by looking for the one that is written like it.
-/

namespace EntitySlice.Source

open EntitySlice.Number EntitySlice.Text

/-! ## Characters -/

/-- An entry of a set of characters. -/
inductive SetEntry
  | one (c : Char)
  | range (first last : Char)
  | space
  deriving DecidableEq, Repr

namespace SetEntry

/-- The entry as it is written. -/
def source : SetEntry → String
  | one c => String.singleton c
  | range first last => String.ofList [first, '-', last]
  | space => r"\s"

/-- The characters that a pattern takes for white space. -/
def isSpace (c : Char) : Bool :=
  (isBlank c && c ≠ '\x85') || c = '\uFEFF'

/-- Whether the entry has the character. -/
def has (c : Char) : SetEntry → Bool
  | one d => c = d
  | range first last => first ≤ c && c ≤ last
  | space => isSpace c

end SetEntry

/-- What one character of a text has to be. -/
inductive Atom
  | literal (c : Char)
  | digit
  | notSpace
  | oneOf (entries : List SetEntry)
  | noneOf (entries : List SetEntry)
  deriving DecidableEq, Repr

namespace Atom

/-- The atom as it is written; some characters stand for themselves behind a backslash only. -/
def source : Atom → String
  | literal c => (if ['.', '/', '+'].contains c then "\\" else "") ++ String.singleton c
  | digit => r"\d"
  | notSpace => r"\S"
  | oneOf entries => "[" ++ String.join (entries.map SetEntry.source) ++ "]"
  | noneOf entries => "[^" ++ String.join (entries.map SetEntry.source) ++ "]"

/-- Whether the atom allows the character. -/
def allows (c : Char) : Atom → Bool
  | literal d => c = d
  | digit => '0' ≤ c && c ≤ '9'
  | notSpace => !SetEntry.isSpace c
  | oneOf entries => entries.any (·.has c)
  | noneOf entries => !entries.any (·.has c)

end Atom

/-! ## Patterns -/

/-- How often something may stand in a text. -/
inductive Times
  | once | optional | some
  | exactly (n : Nat)
  | between (least greatest : Nat)
  deriving DecidableEq, Repr

namespace Times

/-- The number as it is written. -/
def source : Times → String
  | once => ""
  | optional => "?"
  | some => "+"
  | exactly n => "\x7b" ++ natText n ++ "\x7d"
  | between least greatest => "\x7b" ++ natText least ++ "," ++ natText greatest ++ "\x7d"

/-- Whether it may be `n` times. -/
def allows (n : Nat) : Times → Bool
  | once => n = 1
  | optional => n ≤ 1
  | some => 1 ≤ n
  | exactly m => n = m
  | between least greatest => least ≤ n && n ≤ greatest

end Times

/-- A pattern for whole texts. -/
abbrev TextPattern := List (Atom × Times)

namespace TextPattern

/-- The pattern as it is written. -/
def source (p : TextPattern) : String :=
  "/^" ++ String.join (p.map fun (a, t) => a.source ++ t.source) ++ "$/"

/-- Whether the characters can be cut into pieces that the pattern allows. -/
def matchesChars : TextPattern → List Char → Bool
  | [], cs => cs.isEmpty
  | (a, t) :: p, cs =>
    (List.range (cs.length + 1)).any fun n =>
      t.allows n && (cs.take n).all (a.allows ·) && matchesChars p (cs.drop n)

/-- Whether the text matches the pattern. -/
def matchesText (p : TextPattern) (s : String) : Bool := p.matchesChars s.toList

/-- A text that begins with a piece that is allowed matches if the rest does. -/
theorem matchesChars_append {a : Atom} {t : Times} {p : TextPattern} {piece rest : List Char}
    (ht : t.allows piece.length = true) (ha : ∀ c ∈ piece, a.allows c = true)
    (hp : matchesChars p rest = true) : matchesChars ((a, t) :: p) (piece ++ rest) = true := by
  rw [matchesChars, List.any_eq_true]
  refine ⟨piece.length, List.mem_range.mpr ?_, ?_⟩
  · rw [List.length_append]
    omega
  · rw [List.take_left, List.drop_left, ht, hp, List.all_eq_true.mpr ha]
    rfl

/-- Characters for a part of a mail address. -/
def addressPart : Atom := .noneOf [.space, .one '@']

/-- Mail addresses. -/
def email : TextPattern :=
  [(addressPart, .some), (.literal '@', .once), (addressPart, .some), (.literal '.', .once),
    (addressPart, .some)]

/-- Web addresses. -/
def url : TextPattern :=
  ['h', 't', 't', 'p'].map (fun c => (.literal c, .once))
    ++ [(.literal 's', .optional), (.literal ':', .once), (.literal '/', .once),
      (.literal '/', .once), (.notSpace, .some)]

/-- Phone numbers. -/
def phone : TextPattern :=
  [(.literal '+', .optional),
    (.oneOf [.range '0' '9', .space, .one '(', .one ')', .one '-'], .between 6 20)]

/-- Times of day. -/
def time : TextPattern :=
  [(.digit, .exactly 2), (.literal ':', .once), (.digit, .exactly 2)]

/-- The pattern that is written like this, of those that are used. -/
def ofSource? (s : String) : Option TextPattern :=
  [email, url, phone, time].find? fun p => p.source = s

/-- Two digits, a colon and two digits are a time of day. -/
theorem matchesChars_time {a b c d : Char} (ha : Atom.digit.allows a = true)
    (hb : Atom.digit.allows b = true) (hc : Atom.digit.allows c = true)
    (hd : Atom.digit.allows d = true) : matchesChars time [a, b, ':', c, d] = true := by
  have hminutes : matchesChars [(.digit, .exactly 2)] ([c, d] ++ []) = true :=
    matchesChars_append rfl (by simp [hc, hd]) rfl
  have hcolon : matchesChars [(.literal ':', .once), (.digit, .exactly 2)]
      ([':'] ++ [c, d]) = true :=
    matchesChars_append rfl (by simp [Atom.allows]) hminutes
  have hhours : matchesChars time ([a, b] ++ [':', c, d]) = true :=
    matchesChars_append rfl (by simp [ha, hb]) hcolon
  exact hhours

/-- What an object looks like as a text matches no pattern. -/
theorem matchesText_object {p : TextPattern} (h : p ∈ [email, url, phone, time]) :
    p.matchesText "[object Object]" = false := by
  revert p
  decide

end TextPattern

end EntitySlice.Source
