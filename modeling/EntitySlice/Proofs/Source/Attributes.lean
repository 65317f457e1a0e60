import EntitySlice.Number.Whole
import EntitySlice.Source.Literal

/-!
# Attributes in markup

The text of an attribute runs to the next quote like the one that opened it. A backslash is a
character like any other there, and references to characters stand for these. A string literal of
the code in the place of such a text gives its text back only if nothing had to be escaped in it,
and if nothing in it looks like a reference (`readAttribute?_literalChars_iff`).
-/

namespace EntitySlice.Source

open EntitySlice.Number

/-- Taking and dropping end at an element that is not to be taken. -/
theorem takeWhile_append_cons {α : Type} {p : α → Bool} {b : α} (hb : p b = false)
    (as rest : List α) :
    (as ++ b :: rest).takeWhile p = as.takeWhile p ∧
      (as ++ b :: rest).dropWhile p = as.dropWhile p ++ b :: rest := by
  induction as with
  | nil => simp [hb]
  | cons a as ih =>
    cases ha : p a with
    | true => simp [ha, ih]
    | false => simp [ha]

/-! ## References -/

/-- The characters that references may have between their first and their last one. -/
def isReferenceChar (c : Char) : Bool :=
  c.isAlphanum || c = '_' || c = '#'

/-- The character with a number; a number that no character has stands for the sign for that. -/
def numbered (n : Nat) : Char :=
  if n.isValidChar then Char.ofNat n else '\uFFFD'

/-- The character that a reference means: by its number, or by a name that `named?` knows. -/
def referenced? (named? : List Char → Option Char) : List Char → Option Char
  | '#' :: 'x' :: digits => (readDigits? 16 digits).map numbered
  | '#' :: digits => (readDigits? 10 digits).map numbered
  | name => named? name

/-- The character that the reference behind an ampersand means, and what follows it. -/
def readReference? (named? : List Char → Option Char) (cs : List Char) :
    Option (Char × List Char) :=
  match cs.dropWhile isReferenceChar with
  | ';' :: rest => (referenced? named? (cs.takeWhile isReferenceChar)).map (·, rest)
  | _ => none

theorem length_of_readReference? {named? : List Char → Option Char} {cs rest : List Char} {c : Char}
    (h : readReference? named? cs = some (c, rest)) : rest.length < cs.length := by
  unfold readReference? at h
  split at h
  · next more hdrop =>
    obtain ⟨_, -, heq⟩ := Option.map_eq_some_iff.mp h
    obtain ⟨-, rfl⟩ := Prod.mk.inj heq
    have hlength := (List.dropWhile_sublist isReferenceChar (l := cs)).length_le
    rw [hdrop, List.length_cons] at hlength
    exact hlength
  · simp at h

/-- The text that characters with references in them stand for. -/
def decodeReferences (named? : List Char → Option Char) (cs : List Char) : List Char :=
  match cs with
  | [] => []
  | c :: cs =>
    if c = '&' then
      match h : readReference? named? cs with
      | some (d, rest) =>
        have := length_of_readReference? h
        d :: decodeReferences named? rest
      | none => '&' :: decodeReferences named? cs
    else c :: decodeReferences named? cs
termination_by cs.length

section

variable {named? : List Char → Option Char} {b : Char} (hb : isReferenceChar b = false)
  (hend : b ≠ ';')

@[simp] theorem decodeReferences_nil : decodeReferences named? [] = [] := by
  rw [decodeReferences]

theorem decodeReferences_cons {c : Char} (hc : c ≠ '&') (cs : List Char) :
    decodeReferences named? (c :: cs) = c :: decodeReferences named? cs := by
  rw [decodeReferences, if_neg hc]

theorem decodeReferences_of_some {cs rest : List Char} {d : Char}
    (h : readReference? named? cs = some (d, rest)) :
    decodeReferences named? ('&' :: cs) = d :: decodeReferences named? rest := by
  rw [decodeReferences, if_pos rfl]
  split
  · next d' rest' h' =>
    obtain ⟨rfl, rfl⟩ := Prod.mk.inj (Option.some.inj (h'.symm.trans h))
    rfl
  · next h' => simp [h] at h'

theorem decodeReferences_of_none {cs : List Char} (h : readReference? named? cs = none) :
    decodeReferences named? ('&' :: cs) = '&' :: decodeReferences named? cs := by
  rw [decodeReferences, if_pos rfl]
  split
  · next h' => simp [h] at h'
  · rfl

/-- A text without an ampersand stands for itself. -/
theorem decodeReferences_of_notMem {cs : List Char} (h : '&' ∉ cs) :
    decodeReferences named? cs = cs := by
  induction cs with
  | nil => exact decodeReferences_nil
  | cons c cs ih =>
    rw [List.mem_cons, not_or] at h
    rw [decodeReferences_cons (Ne.symm h.1), ih h.2]

include hb hend in
/-- No reference goes on behind a character that references do not have. -/
theorem readReference?_append (cs rest : List Char) :
    readReference? named? (cs ++ b :: rest) =
      (readReference? named? cs).map (Prod.map id (· ++ b :: rest)) := by
  obtain ⟨htake, hdrop⟩ := takeWhile_append_cons hb cs rest
  rw [readReference?, readReference?, htake, hdrop]
  cases hcs : cs.dropWhile isReferenceChar with
  | nil =>
    -- The text ends in what could be a reference, and `b` is not the end of one.
    rw [List.nil_append]
    split
    · next heq => exact absurd (List.cons.inj heq).1 hend
    · rfl
  | cons d more =>
    by_cases hd : d = ';'
    · subst hd
      simp [Option.map_map, Function.comp_def]
    · simp [hd]

include hb hend in
/-- **Text before a character that references do not have is decoded by itself.** -/
theorem decodeReferences_append (cs rest : List Char) :
    decodeReferences named? (cs ++ b :: rest) =
      decodeReferences named? cs ++ decodeReferences named? (b :: rest) := by
  fun_induction decodeReferences named? cs with
  | case1 => rfl
  | case2 cs d more href _ ih =>
    have hsome : readReference? named? (cs ++ b :: rest) = some (d, more ++ b :: rest) := by
      rw [readReference?_append hb hend, href]
      rfl
    rw [List.cons_append, decodeReferences_of_some hsome, ih, List.cons_append]
  | case3 cs href ih =>
    have hnone : readReference? named? (cs ++ b :: rest) = none := by
      rw [readReference?_append hb hend, href, Option.map_none]
    rw [List.cons_append, decodeReferences_of_none hnone, ih, List.cons_append]
  | case4 c cs hc ih => rw [List.cons_append, decodeReferences_cons hc, ih, List.cons_append]

variable (named?) in
/-- What a text with a reference stands for is shorter. -/
theorem decodeReferences_eq_or_length_lt (cs : List Char) :
    decodeReferences named? cs = cs ∨ (decodeReferences named? cs).length < cs.length := by
  fun_induction decodeReferences named? cs with
  | case1 => exact .inl rfl
  | case2 cs d rest href hlt ih =>
    right
    rw [List.length_cons, List.length_cons]
    rcases ih with ih | ih
    · rw [ih]
      omega
    · omega
  | case3 cs href ih => simpa using ih
  | case4 c cs hc ih => simpa using ih

end

/-! ## Literals in the place of attributes -/

/-- The text of the attribute that comes first, and what follows its closing quote. -/
def readAttribute? (named? : List Char → Option Char) :
    List Char → Option (List Char × List Char)
  | [] => none
  | quote :: cs =>
    if quote = '"' || quote = '\'' then
      match cs.dropWhile (· ≠ quote) with
      | [] => none
      | _ :: rest => some (decodeReferences named? (cs.takeWhile (· ≠ quote)), rest)
    else none

/-- What stands in a literal before the first quote in it. -/
def upToQuote (cs : List Char) : List Char :=
  (escapeChars cs).takeWhile (· ≠ '\'')

/-- Whether a character stands for itself in a literal. -/
def IsPlain (c : Char) : Prop := escapeChar c = [c]

instance : DecidablePred IsPlain := fun c => inferInstanceAs (Decidable (escapeChar c = [c]))

/-- A character that does not stand for itself gets a backslash before it or before its letter. -/
theorem escapeChar_cases (c : Char) :
    IsPlain c ∧ c ≠ '\'' ∧ c ≠ '\\' ∨ c = '\'' ∧ escapeChar c = ['\\', '\''] ∨
      c = '\\' ∧ escapeChar c = ['\\', '\\'] ∨
      c ≠ '\\' ∧ ∃ d, d ≠ '\'' ∧ escapeChar c = ['\\', d] := by
  unfold IsPlain escapeChar
  by_cases h1 : c = '\\'
  · subst h1
    exact .inr (.inr (.inl ⟨rfl, rfl⟩))
  by_cases h2 : c = '\''
  · subst h2
    exact .inr (.inl ⟨rfl, rfl⟩)
  rw [if_neg h1, if_neg h2]
  by_cases h3 : c = '\n'
  · exact .inr (.inr (.inr ⟨h1, 'n', by decide, if_pos h3⟩))
  rw [if_neg h3]
  by_cases h4 : c = '\r'
  · exact .inr (.inr (.inr ⟨h1, 'r', by decide, if_pos h4⟩))
  rw [if_neg h4]
  by_cases h5 : c = '\t'
  · exact .inr (.inr (.inr ⟨h1, 't', by decide, if_pos h5⟩))
  · exact .inl ⟨if_neg h5, h2, h1⟩

/-- The characters that do not stand for themselves in a literal. -/
def escapedChars : List Char := ['\\', '\'', '\n', '\r', '\t']

theorem isPlain_iff {c : Char} : IsPlain c ↔ c ∉ escapedChars := by
  constructor
  · rintro h hmem
    have hnone : ∀ d ∈ escapedChars, ¬IsPlain d := by simp [escapedChars, IsPlain, escapeChar]
    exact hnone c hmem h
  · intro h
    simp only [escapedChars, List.mem_cons, List.not_mem_nil, or_false, not_or] at h
    obtain ⟨h1, h2, h3, h4, h5⟩ := h
    rw [IsPlain, escapeChar, if_neg h1, if_neg h2, if_neg h3, if_neg h4, if_neg h5]

theorem IsPlain.ne {c : Char} (h : IsPlain c) : c ≠ '\'' ∧ c ≠ '\\' := by
  constructor
  · rintro rfl
    exact absurd h (by decide)
  · rintro rfl
    exact absurd h (by decide)

theorem escapeChars_of_isPlain {cs : List Char} (h : ∀ c ∈ cs, IsPlain c) :
    escapeChars cs = cs := by
  induction cs with
  | nil => rfl
  | cons c cs ih =>
    rw [List.forall_mem_cons] at h
    rw [escapeChars, List.flatMap_cons, h.1, ← escapeChars, ih h.2, List.singleton_append]

theorem upToQuote_append {cs : List Char} (h : ∀ c ∈ cs, IsPlain c) (rest : List Char) :
    upToQuote (cs ++ rest) = cs ++ upToQuote rest := by
  have hescape : escapeChars (cs ++ rest) = cs ++ escapeChars rest := by
    rw [escapeChars, List.flatMap_append, ← escapeChars, ← escapeChars, escapeChars_of_isPlain h]
  rw [upToQuote, hescape, List.takeWhile_append_of_pos fun c hc => by simpa using (h c hc).ne.1,
    ← upToQuote]

theorem upToQuote_of_isPlain {cs : List Char} (h : ∀ c ∈ cs, IsPlain c) :
    upToQuote cs = cs := by
  have happend := upToQuote_append h []
  rwa [List.append_nil, show upToQuote [] = [] from rfl, List.append_nil] at happend

/-- In place of any other character there is a backslash first, and two in place of a backslash. -/
theorem upToQuote_cons {c : Char} (h : ¬IsPlain c) (cs : List Char) :
    ∃ rest, upToQuote (c :: cs) = '\\' :: rest ∧
      (c = '\\' → rest = '\\' :: upToQuote cs) := by
  have hstep : upToQuote (c :: cs) =
      (escapeChar c ++ escapeChars cs).takeWhile (· ≠ '\'') := rfl
  rw [hstep]
  rcases escapeChar_cases c with ⟨hplain, -⟩ | ⟨rfl, he⟩ | ⟨rfl, he⟩ | ⟨hc, d, hd, he⟩
  · exact absurd hplain h
  · exact ⟨[], by rw [he]; rfl, fun heq => absurd heq (by decide)⟩
  · exact ⟨'\\' :: upToQuote cs, by rw [he]; rfl, fun _ => rfl⟩
  · refine ⟨d :: upToQuote cs, ?_, fun heq => absurd heq hc⟩
    rw [he, List.cons_append, List.cons_append, List.nil_append,
      List.takeWhile_cons_of_pos (by decide), List.takeWhile_cons_of_pos (by simpa using hd)]
    rfl

section

variable {named? : List Char → Option Char}

theorem decodeReferences_backslash (rest : List Char) :
    decodeReferences named? ('\\' :: rest) = '\\' :: decodeReferences named? rest :=
  decodeReferences_cons (by decide) rest

/-- Each backslash of a text is two in its literal, so the literal can never catch up. -/
theorem replicate_append_decode_ne (cs : List Char) (n : Nat) :
    List.replicate (n + 1) '\\' ++ decodeReferences named? (upToQuote cs) ≠ cs := by
  induction cs generalizing n with
  | nil => simp
  | cons c cs ih =>
    intro h
    rw [List.replicate_succ, List.cons_append] at h
    obtain ⟨rfl, htail⟩ := List.cons.inj h
    obtain ⟨rest, hrest, hdouble⟩ := upToQuote_cons (c := '\\') (by decide) cs
    rw [hrest, hdouble rfl, decodeReferences_backslash, decodeReferences_backslash] at htail
    refine ih (n + 1) (Eq.trans ?_ htail)
    simp [List.replicate_succ']

/-- The first character that is escaped is not read as what it was. -/
theorem decode_upToQuote_ne {front back : List Char} {x : Char}
    (hfront : ∀ c ∈ front, IsPlain c) (hx : ¬IsPlain x) :
    decodeReferences named? (upToQuote (front ++ x :: back)) ≠ front ++ x :: back := by
  intro h
  obtain ⟨rest, hrest, hdouble⟩ := upToQuote_cons hx back
  -- There is a backslash in its place, and no reference goes across a backslash.
  rw [upToQuote_append hfront, hrest, decodeReferences_append (by decide) (by decide),
    decodeReferences_backslash] at h
  rcases decodeReferences_eq_or_length_lt named? front with hsame | hshort
  · rw [hsame, List.append_cancel_left_eq, List.cons.injEq] at h
    obtain ⟨hbackslash, hback⟩ := h
    rw [hdouble hbackslash.symm, decodeReferences_backslash] at hback
    exact replicate_append_decode_ne back 0 hback
  · -- What is in front of it has become shorter, so the backslash would stand in there.
    rcases List.append_eq_append_iff.mp h with ⟨more, hmore, hcons⟩ | ⟨more, hmore, -⟩
    · cases more with
      | nil =>
        rw [List.append_nil] at hmore
        exact absurd (congrArg List.length hmore) (Nat.ne_of_gt hshort)
      | cons d more =>
        obtain ⟨rfl, -⟩ := List.cons.inj hcons
        refine (hfront '\\' ?_).ne.2 rfl
        rw [hmore]
        exact List.mem_append_right _ List.mem_cons_self
    · rw [hmore, List.length_append] at hshort
      omega

/-- **A text that is read before the first quote of its literal has nothing to escape.** -/
theorem isPlain_of_decode_eq {cs : List Char}
    (h : decodeReferences named? (upToQuote cs) = cs) : ∀ c ∈ cs, IsPlain c := by
  cases hfind : cs.find? fun c => !decide (IsPlain c) with
  | none => exact fun c hc => by simpa using List.find?_eq_none.mp hfind c hc
  | some x =>
    obtain ⟨hx, front, back, rfl, hfront⟩ := List.find?_eq_some_iff_append.mp hfind
    exact absurd h (decode_upToQuote_ne (fun c hc => by simpa using hfront c hc)
      (by simpa using hx))

variable (named?) in
/-- The literal for a text is read up to its first quote. -/
theorem readAttribute?_literalChars (cs after : List Char) :
    ∃ rest, readAttribute? named? (literalChars cs ++ after) =
        some (decodeReferences named? (upToQuote cs), rest) ∧
      ((∀ c ∈ cs, IsPlain c) → rest = after) := by
  obtain ⟨htake, hdrop⟩ := takeWhile_append_cons (p := fun c => decide (c ≠ '\'')) (b := '\'') rfl
    (escapeChars cs) after
  have hread : readAttribute? named? (literalChars cs ++ after) =
      match (escapeChars cs ++ '\'' :: after).dropWhile (· ≠ '\'') with
      | [] => none
      | _ :: rest => some (decodeReferences named?
          ((escapeChars cs ++ '\'' :: after).takeWhile (· ≠ '\'')), rest) := by
    simp [readAttribute?, literalChars]
  rw [hread, htake, hdrop, ← upToQuote]
  cases hcs : (escapeChars cs).dropWhile (· ≠ '\'') with
  | nil => exact ⟨after, rfl, fun _ => rfl⟩
  | cons d more =>
    refine ⟨more ++ '\'' :: after, rfl, fun hplain => ?_⟩
    have hnil : (cs ++ []).dropWhile (· ≠ '\'') = [] :=
      List.dropWhile_append_of_pos fun c hc => by simpa using (hplain c hc).ne.1
    rw [List.append_nil] at hnil
    rw [escapeChars_of_isPlain hplain, hnil] at hcs
    simp at hcs

/--
**A literal in the place of an attribute text is read as its text**, with what follows the literal
behind it, if and only if nothing in the text is escaped and nothing in it is a reference.
-/
theorem readAttribute?_literalChars_iff {cs after : List Char} {start : List Char}
    (hstart : start <+: after) :
    (∃ rest, readAttribute? named? (literalChars cs ++ after) = some (cs, rest) ∧
      start <+: rest) ↔ (∀ c ∈ cs, IsPlain c) ∧ decodeReferences named? cs = cs := by
  obtain ⟨rest, hread, hrest⟩ := readAttribute?_literalChars named? cs after
  rw [hread]
  constructor
  · rintro ⟨_, h, -⟩
    have hdecode := (Prod.mk.inj (Option.some.inj h)).1
    have hplain := isPlain_of_decode_eq hdecode
    rw [upToQuote_of_isPlain hplain] at hdecode
    exact ⟨hplain, hdecode⟩
  · rintro ⟨hplain, hdecode⟩
    rw [upToQuote_of_isPlain hplain, hdecode, hrest hplain]
    exact ⟨after, rfl, hstart⟩

end

end EntitySlice.Source
