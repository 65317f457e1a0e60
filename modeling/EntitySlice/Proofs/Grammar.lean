import EntitySlice.Entity.Naming
import EntitySlice.Proofs.LocalKeys
import Mathlib.Data.List.Infix
import Mathlib.Data.List.TakeWhile

/-!
# Forms and first faults

What a reader takes is stated by the forms of texts, and what it refuses by the first thing that is
wrong. Whether something is wrong with an element of a list may depend on the elements before it;
at most one element is the first such one (`IsFirst.unique`).

* `OfForm` — a text of one character and then any number of others, as in `[A-Za-z_][A-Za-z0-9_]*`
* `Clear`, `IsFirst` — a list with nothing wrong, and what comes first otherwise
-/

namespace EntitySlice

open EntitySlice.Source EntitySlice.Text

/-! ## Forms of texts -/

/-- Whether a text is one character of a class and then any number of characters of another. -/
def OfForm (first other : Char → Bool) (s : String) : Prop :=
  ∃ c rest, s.toList = c :: rest ∧ first c = true ∧ ∀ d ∈ rest, other d = true

/-- The characters that keys start with. -/
def isKeyStart (c : Char) : Bool := c.isAlpha || c = '_'

variable {first other : Char → Bool} {s : String}

theorem ofForm_ofList_cons {c : Char} {rest : List Char} :
    OfForm first other (String.ofList (c :: rest)) ↔
      first c = true ∧ ∀ d ∈ rest, other d = true := by
  simp only [OfForm, String.toList_ofList, List.cons.injEq]
  constructor
  · rintro ⟨_, _, ⟨rfl, rfl⟩, h⟩
    exact h
  · exact fun h => ⟨c, rest, ⟨rfl, rfl⟩, h⟩

/-- A text of a form stays one with more characters of the second class. -/
theorem OfForm.append {t : String} (h : OfForm first other s)
    (ht : ∀ d ∈ t.toList, other d = true) : OfForm first other (s ++ t) := by
  obtain ⟨c, rest, hs, hc, hrest⟩ := h
  refine ⟨c, rest ++ t.toList, ?_, hc, ?_⟩
  · rw [String.toList_append, hs, List.cons_append]
  · exact List.forall_mem_append.mpr ⟨hrest, ht⟩

/-- Names are of the form `[A-Za-z_][A-Za-z0-9_]*`. -/
theorem isEntityName_iff : isEntityName s = true ↔ OfForm isKeyStart isKeyChar s := by
  have hstart (c : Char) :
      isKeyStart c = true ↔ isIdentifierStart c = true ∧ c ≠ '$' := by
    by_cases hc : c = '$'
    · subst hc
      decide
    · simp [isKeyStart, isIdentifierStart, hc]
  have hpart (c : Char) : isKeyChar c = true ↔ isIdentifierPart c = true ∧ c ≠ '$' := by
    by_cases hc : c = '$'
    · subst hc
      decide
    · simp [isKeyChar, isIdentifierPart, hc]
  rw [isEntityName, isIdentifier, OfForm]
  cases s.toList with
  | nil => simp [isIdentifierChars]
  | cons c rest =>
    simp only [isIdentifierChars, Bool.and_eq_true, Bool.not_eq_true', List.all_eq_true,
      List.contains_eq_mem, decide_eq_false_iff_not, List.mem_cons, not_or, List.cons.injEq, hstart,
      hpart]
    constructor
    · rintro ⟨⟨hc, hrest⟩, hdollar, hmem⟩
      exact ⟨c, rest, ⟨rfl, rfl⟩, ⟨hc, Ne.symm hdollar⟩,
        fun d hd => ⟨hrest d hd, fun he => hmem (he ▸ hd)⟩⟩
    · rintro ⟨_, _, ⟨rfl, rfl⟩, ⟨hc, hdollar⟩, hrest⟩
      exact ⟨⟨hc, fun d hd => (hrest d hd).1⟩, Ne.symm hdollar,
        fun hmem => (hrest _ hmem).2 rfl⟩

/-- Names of folders are of the form `[a-z0-9][a-z0-9_-]*`. -/
theorem isFolderName_iff : isFolderName s = true ↔ OfForm isFolderStart isFolderPart s := by
  rw [isFolderName, OfForm]
  cases s.toList with
  | nil => simp
  | cons c rest =>
    simp only [Bool.and_eq_true, List.all_eq_true, List.cons.injEq]
    constructor
    · rintro ⟨hc, hrest⟩
      exact ⟨c, rest, ⟨rfl, rfl⟩, hc, hrest⟩
    · rintro ⟨_, _, ⟨rfl, rfl⟩, h⟩
      exact h

/-- Nothing is left of a text without its blanks at both ends when there is nothing else. -/
theorem trim_eq_empty_iff : trim s = "" ↔ isBlankText s = true := by
  have hchars : trim s = "" ↔ trimChars s.toList = [] := by
    rw [trim, ← String.toList_eq_nil_iff, String.toList_ofList]
  rw [hchars, trimChars, isBlankText, List.reverse_eq_nil_iff, List.dropWhile_eq_nil_iff,
    List.all_eq_true]
  simp only [List.mem_reverse]
  constructor
  · intro h
    cases hdrop : s.toList.dropWhile isBlank with
    | nil => exact List.dropWhile_eq_nil_iff.mp hdrop
    | cons c rest =>
      -- What is left starts with a character that is not blank.
      have hc := List.head?_dropWhile_not isBlank s.toList
      rw [hdrop] at hc
      have hblank := h c (hdrop ▸ List.mem_cons_self)
      simp [hblank] at hc
  · exact fun h c hc => h c ((List.dropWhile_suffix isBlank).mem hc)

/-! ## First faults -/

section

variable {α : Type} {bad : List α → α → Prop} {l before before' : List α} {x y : α}

/-- Whether no element of a list is bad, given the elements before it. -/
def Clear (bad : List α → α → Prop) (l : List α) : Prop :=
  ∀ before x, before ++ [x] <+: l → ¬bad before x

/-- Whether `x`, which comes after `before`, is the first element of a list that is bad. -/
structure IsFirst (bad : List α → α → Prop) (l before : List α) (x : α) : Prop where
  isPrefix : before ++ [x] <+: l
  isBad : bad before x
  isClear : Clear bad before

theorem clear_nil (bad : List α → α → Prop) : Clear bad [] := by
  intro before x h
  simp at h

theorem clear_cons : Clear bad (x :: l) ↔ ¬bad [] x ∧ Clear (fun b => bad (x :: b)) l := by
  constructor
  · intro h
    refine ⟨h [] x (by simp), fun before y hy => h (x :: before) y ?_⟩
    rw [List.cons_append]
    exact List.prefix_cons_inj x |>.mpr hy
  · rintro ⟨hx, hl⟩ before y hy
    cases before with
    | nil =>
      obtain rfl : y = x := by simpa using hy
      exact hx
    | cons z before =>
      rw [List.cons_append, List.cons_prefix_cons] at hy
      obtain ⟨rfl, hy⟩ := hy
      exact hl before y hy

theorem IsFirst.head (h : bad [] x) (l : List α) : IsFirst bad (x :: l) [] x where
  isPrefix := by simp
  isBad := h
  isClear := clear_nil bad

theorem IsFirst.cons (hx : ¬bad [] x) (h : IsFirst (fun b => bad (x :: b)) l before y) :
    IsFirst bad (x :: l) (x :: before) y where
  isPrefix := by
    rw [List.cons_append]
    exact List.prefix_cons_inj x |>.mpr h.isPrefix
  isBad := h.isBad
  isClear := clear_cons.mpr ⟨hx, h.isClear⟩

/-- **Nothing else comes first.** -/
theorem IsFirst.unique (h : IsFirst bad l before x) (h' : IsFirst bad l before' y) :
    before = before' ∧ x = y := by
  -- Of two prefixes of a list one is a prefix of the other, and the shorter one would not be clear.
  have apart {b b' : List α} {u v : α} (hu : IsFirst bad l b u) (hv : IsFirst bad l b' v) :
      ¬b.length < b'.length := by
    intro hlt
    have hp : b ++ [u] <+: b' :=
      List.prefix_of_prefix_length_le hu.isPrefix
        ((List.prefix_append b' [v]).trans hv.isPrefix) (by simpa using Nat.succ_le_of_lt hlt)
    exact hv.isClear b u hp hu.isBad
  have hlength : (before ++ [x]).length = (before' ++ [y]).length := by
    have h₁ := apart h h'
    have h₂ := apart h' h
    simp only [List.length_append, List.length_singleton]
    omega
  have heq : before ++ [x] = before' ++ [y] :=
    (List.prefix_of_prefix_length_le h.isPrefix h'.isPrefix hlength.le).eq_of_length hlength
  exact List.append_inj' heq rfl |>.imp_right (by simp)

theorem IsFirst.not_clear (h : IsFirst bad l before x) : ¬Clear bad l :=
  fun hl => hl before x h.isPrefix h.isBad

/-- The first one that is not good is behind good ones. -/
theorem isFirst_of_append {good : α → Prop} {after : List α} (hbefore : ∀ y ∈ before, good y)
    (hx : ¬good x) : IsFirst (fun _ y => ¬good y) (before ++ x :: after) before x where
  isPrefix := ⟨after, by rw [List.append_assoc, List.singleton_append]⟩
  isBad := hx
  isClear := fun _ y hy => not_not.mpr (hbefore y (hy.subset (by simp)))

end

/-- A computation in two steps fails in the first step or, after it, in the second. -/
theorem error_cases_of_bind {ε α β : Type} {x : Except ε α} {f : α → Except ε β} {e : ε}
    (h : x >>= f = .error e) : x = .error e ∨ ∃ a, x = .ok a ∧ f a = .error e := by
  cases x with
  | error e' => exact .inl (congrArg Except.error (Except.error.inj h))
  | ok a => exact .inr ⟨a, rfl, h⟩

end EntitySlice
