import EntitySlice.Json.Printer
import EntitySlice.Json.Reader
import Mathlib.Data.List.TakeWhile

/-!
# Numerals

A numeral ends where no digit, point or exponent follows: what is read of a text that ends there is
read of any longer text too (`lexNumber_append`). The digits of a whole number within 64 bits are
read as that number (`lexNumber_natChars`).
-/

namespace EntitySlice.Json

open EntitySlice.Number

/-- Whether a numeral cannot go on with the text. -/
def EndsNumeral (rest : List Char) : Prop :=
  ∀ c ∈ rest.head?, c.isDigit = false ∧ c ≠ '.' ∧ c ≠ 'e' ∧ c ≠ 'E'

theorem endsNumeral_cons {c : Char} (hd : c.isDigit = false)
    (hc : c ≠ '.' ∧ c ≠ 'e' ∧ c ≠ 'E') (rest : List Char) : EndsNumeral (c :: rest) := by
  intro d h
  obtain rfl : c = d := by simpa using h
  exact ⟨hd, hc⟩

theorem endsNumeral_nil : EndsNumeral [] := by
  intro c h
  simp at h

/-! ## What follows a numeral -/

section Append

variable {cs ds r rest : List Char}

theorem spanDigits_cons_of_isDigit {c : Char} (hc : c.isDigit = true) (cs : List Char) :
    spanDigits (c :: cs) = (c :: (spanDigits cs).1, (spanDigits cs).2) := by
  simp [spanDigits, hc]

theorem spanDigits_cons_of_not_isDigit {c : Char} (hc : c.isDigit = false) (cs : List Char) :
    spanDigits (c :: cs) = ([], c :: cs) := by
  simp [spanDigits, hc]

theorem spanDigits_of_endsNumeral (h : EndsNumeral rest) : spanDigits rest = ([], rest) := by
  cases rest with
  | nil => rfl
  | cons c rest => exact spanDigits_cons_of_not_isDigit (h c rfl).1 rest

theorem spanDigits_append (h : EndsNumeral rest) (cs : List Char) :
    spanDigits (cs ++ rest) = ((spanDigits cs).1, (spanDigits cs).2 ++ rest) := by
  induction cs with
  | nil => exact spanDigits_of_endsNumeral h
  | cons c cs ih =>
    rw [List.cons_append]
    cases hc : c.isDigit with
    | true => rw [spanDigits_cons_of_isDigit hc, spanDigits_cons_of_isDigit hc, ih]
    | false => simp [spanDigits_cons_of_not_isDigit hc]

theorem spanSomeDigits_append (h : EndsNumeral rest) (hcs : spanSomeDigits cs = some (ds, r)) :
    spanSomeDigits (cs ++ rest) = some (ds, r ++ rest) := by
  unfold spanSomeDigits at hcs ⊢
  rw [spanDigits_append h]
  simp only [Option.ite_none_left_eq_some, Option.some.injEq, Prod.mk.injEq] at hcs ⊢
  obtain ⟨hne, rfl, rfl⟩ := hcs
  exact ⟨hne, rfl, rfl⟩

theorem spanWhole_append (h : EndsNumeral rest) (hcs : spanWhole cs = some (ds, r)) :
    spanWhole (cs ++ rest) = some (ds, r ++ rest) := by
  unfold spanWhole at hcs ⊢
  rw [spanDigits_append h]
  simp only [Option.ite_none_left_eq_some, Option.some.injEq, Prod.mk.injEq] at hcs ⊢
  obtain ⟨hne, rfl, rfl⟩ := hcs
  exact ⟨hne, rfl, rfl⟩

theorem spanFraction_of_endsNumeral (h : EndsNumeral rest) :
    spanFraction rest = some ([], rest) := by
  cases rest with
  | nil => rfl
  | cons c rest => rw [spanFraction, if_neg (h c rfl).2.1]

theorem spanFraction_append (h : EndsNumeral rest) (hcs : spanFraction cs = some (ds, r)) :
    spanFraction (cs ++ rest) = some (ds, r ++ rest) := by
  cases cs with
  | nil =>
    simp only [spanFraction, Option.some.injEq, Prod.mk.injEq] at hcs
    obtain ⟨rfl, rfl⟩ := hcs
    exact spanFraction_of_endsNumeral h
  | cons c cs =>
    rw [List.cons_append, spanFraction]
    rw [spanFraction] at hcs
    split at hcs
    · next hc => rw [if_pos hc, spanSomeDigits_append h hcs]
    · next hc =>
      simp only [Option.some.injEq, Prod.mk.injEq] at hcs
      obtain ⟨rfl, rfl⟩ := hcs
      rw [if_neg hc, List.cons_append]

theorem spanExponent_of_endsNumeral (h : EndsNumeral rest) :
    spanExponent rest = some (none, rest) := by
  cases rest with
  | nil => rfl
  | cons c rest =>
    obtain ⟨-, -, he, hE⟩ := h c rfl
    simp [spanExponent, he, hE]

/-- A sign is looked for in the text itself if it is not empty. -/
theorem spanSign_append (h : cs ≠ []) (rest : List Char) :
    spanSign (cs ++ rest) = ((spanSign cs).1, (spanSign cs).2 ++ rest) := by
  cases cs with
  | nil => exact absurd rfl h
  | cons c cs =>
    rw [List.cons_append, spanSign, spanSign]
    split
    · rfl
    · split <;> rfl

theorem spanExponent_append {e : Option Int} (h : EndsNumeral rest)
    (hcs : spanExponent cs = some (e, r)) : spanExponent (cs ++ rest) = some (e, r ++ rest) := by
  cases cs with
  | nil =>
    simp only [spanExponent, Option.some.injEq, Prod.mk.injEq] at hcs
    obtain ⟨rfl, rfl⟩ := hcs
    exact spanExponent_of_endsNumeral h
  | cons c cs =>
    rw [List.cons_append, spanExponent]
    rw [spanExponent] at hcs
    split at hcs
    · next hc =>
      simp only [Option.map_eq_some_iff, Prod.mk.injEq, Prod.exists] at hcs
      obtain ⟨ds, r', hd, rfl, rfl⟩ := hcs
      -- Digits follow the sign, so the text behind the `e` is not empty.
      have hne : cs ≠ [] := by
        rintro rfl
        simp [spanSign, spanSomeDigits, spanDigits] at hd
      simp only [if_pos hc, spanSign_append hne, spanSomeDigits_append h hd, Option.map_some]
    · next hc =>
      simp only [Option.some.injEq, Prod.mk.injEq] at hcs
      obtain ⟨rfl, rfl⟩ := hcs
      rw [if_neg hc, List.cons_append]

/-- **What is read of a numeral does not depend on what follows.** -/
theorem lexNumber_append {negative : Bool} {n : Number} (h : EndsNumeral rest)
    (hcs : lexNumber negative cs = some (n, r)) :
    lexNumber negative (cs ++ rest) = some (n, r ++ rest) := by
  simp only [lexNumber, Option.bind_eq_bind, Option.bind_eq_some_iff, Prod.exists, Option.pure_def,
    Option.some.injEq, Prod.mk.injEq] at hcs ⊢
  obtain ⟨whole, r₁, hw, fraction, r₂, hf, exponent, r₃, he, m, hm, rfl, rfl⟩ := hcs
  exact ⟨whole, r₁ ++ rest, spanWhole_append h hw, fraction, r₂ ++ rest, spanFraction_append h hf,
    exponent, r₃ ++ rest, spanExponent_append h he, m, hm, rfl, rfl⟩

end Append

/-! ## Whole numbers -/

/-- Whether the number is a floating-point number or a whole number within 64 bits. -/
def Number.InRange : Number → Prop
  | .integer n => -(Nat.pow 2 63 : Nat) ≤ n ∧ n ≤ maxSignificand
  | .float _ => True

/-- Whatever a numeral spells is within range. -/
theorem Numeral.inRange_of_value? {m : Numeral} {n : Number} (h : m.value? = some n) :
    n.InRange := by
  have hfloat : ∀ {x : Number}, m.float?.map .float = some x → x.InRange := by
    intro x hx
    obtain ⟨y, -, rfl⟩ := Option.map_eq_some_iff.mp hx
    trivial
  have hle : ∀ (acc : Nat) (cs : List Char), acc ≤ maxSignificand →
      (takeDigits acc cs).1 ≤ maxSignificand := by
    intro acc cs hacc
    induction cs generalizing acc with
    | nil => exact hacc
    | cons c cs ih =>
      rw [takeDigits]
      split
      · next hc => exact ih _ hc
      · exact hacc
  have hmax := hle 0 m.whole (Nat.zero_le _)
  unfold value? at h
  simp only at h
  generalize (takeDigits 0 m.whole).1 = magnitude at h hmax
  split at h
  · split at h
    · obtain rfl := Option.some.inj h
      exact ⟨by omega, by exact_mod_cast hmax⟩
    · split at h
      · next hpos =>
        obtain rfl := Option.some.inj h
        exact ⟨by omega, by omega⟩
      · exact hfloat h
  · exact hfloat h

theorem inRange_of_lexNumber {negative : Bool} {cs r : List Char} {n : Number}
    (h : lexNumber negative cs = some (n, r)) : n.InRange := by
  simp only [lexNumber, Option.bind_eq_bind, Option.bind_eq_some_iff, Prod.exists, Option.pure_def,
    Option.some.injEq, Prod.mk.injEq] at h
  obtain ⟨_, _, _, _, _, _, _, _, _, m, hm, rfl, -⟩ := h
  exact Numeral.inRange_of_value? hm

theorem le_ofDigitChars (cs : List Char) (acc : Nat) : acc ≤ Nat.ofDigitChars 10 cs acc := by
  induction cs generalizing acc with
  | nil => simp
  | cons c cs ih =>
    rw [Nat.ofDigitChars_cons]
    have := ih (10 * acc + (c.toNat - '0'.toNat))
    omega

/-- Digits of a number within 64 bits are all taken. -/
theorem takeDigits_eq {cs : List Char} {acc : Nat}
    (h : Nat.ofDigitChars 10 cs acc ≤ maxSignificand) :
    takeDigits acc cs = (Nat.ofDigitChars 10 cs acc, []) := by
  induction cs generalizing acc with
  | nil => rfl
  | cons c cs ih =>
    rw [Nat.ofDigitChars_cons, Nat.mul_comm 10 acc] at h ⊢
    have hc : acc * 10 + digitValue c ≤ maxSignificand := Nat.le_trans (le_ofDigitChars cs _) h
    rw [takeDigits, if_pos hc]
    exact ih h

/-- The first digit of a number that is not zero is not zero. -/
theorem head?_natChars {n : Nat} (h : 0 < n) : (natChars n).head? ≠ some '0' := by
  unfold natChars
  induction n using Nat.strongRecOn with
  | ind n ih =>
    rw [Nat.toDigits_eq_if (by decide)]
    split
    · next hn =>
      have hdigit : ∀ m : Fin 10, 0 < m.val → m.val.digitChar ≠ '0' := by decide
      simpa using hdigit ⟨n, hn⟩ h
    · next hn =>
      have hrec := ih (n / 10) (by omega) (by omega)
      obtain ⟨c, cs, hcs⟩ := List.exists_cons_of_ne_nil
        (Nat.toDigits_ne_nil : Nat.toDigits 10 (n / 10) ≠ [])
      rw [hcs] at hrec ⊢
      exact hrec

theorem spanWhole_natChars (n : Nat) : spanWhole (natChars n) = some (natChars n, []) := by
  have hdigits : ∀ c ∈ natChars n, c.isDigit = true := fun c hc =>
    Nat.isDigit_of_mem_toDigits (by decide) (by decide) hc
  have hspan : spanDigits (natChars n) = (natChars n, []) := by
    rw [spanDigits, List.takeWhile_eq_self_iff.mpr hdigits, List.dropWhile_eq_nil_iff.mpr hdigits]
  have hne : natChars n ≠ [] := Nat.toDigits_ne_nil
  have hzero : (natChars n).head? = some '0' → (natChars n).length = 1 := by
    intro hhead
    rcases Nat.eq_zero_or_pos n with rfl | hpos
    · rfl
    · exact absurd hhead (head?_natChars hpos)
  rw [spanWhole, hspan]
  simpa [hne] using hzero

/-- The digits of a number within 64 bits are read as that number; a sign makes its opposite. -/
theorem lexNumber_natChars {negative : Bool} {n : Nat} (hmax : n ≤ maxSignificand)
    (hneg : negative = true → 0 < n ∧ n ≤ Nat.pow 2 63) :
    lexNumber negative (natChars n) =
      some (.integer (if negative then -(n : Int) else n), []) := by
  have hvalue : Nat.ofDigitChars 10 (natChars n) 0 = n := Nat.ofDigitChars_ten_toDigits
  have htake : takeDigits 0 (natChars n) = (n, []) := by
    rw [takeDigits_eq (by rw [hvalue]; exact hmax), hvalue]
  rw [lexNumber, spanWhole_natChars]
  cases negative with
  | false => simp [spanFraction, spanExponent, Numeral.value?, htake]
  | true => simp [spanFraction, spanExponent, Numeral.value?, htake, hneg rfl]

end EntitySlice.Json
