import EntitySlice.Source.Markup
import Mathlib.Data.List.Basic

/-!
# Replacements one after the other

A text can be escaped by replacing one character after the other, each of them in the whole text.
Every later replacement then sees what the earlier ones have put in. As long as it does not replace
any of that, all of them together are one step for each character (`replacedAll_eq_flatMap`). This
is so for literals and for text between tags, in the order in which their characters are listed.
-/

namespace EntitySlice.Source

/-- A character and what stands for it. -/
structure Replacement where
  char : Char
  text : List Char
  deriving DecidableEq, Repr

/-- The text with all that stands for a character in its place. -/
def replaced (r : Replacement) (cs : List Char) : List Char :=
  cs.flatMap fun c => if c = r.char then r.text else [c]

/-- The text after replacements one after the other. -/
def replacedAll (rs : List Replacement) (cs : List Char) : List Char :=
  rs.foldl (fun cs r => replaced r cs) cs

/-- What the first replacement for a character puts in its place. -/
def substitute : List Replacement → Char → List Char
  | [], c => [c]
  | r :: rs, c => if c = r.char then r.text else substitute rs c

/-- Whether no replacement is for a character that an earlier one puts in. -/
def InOrder (rs : List Replacement) : Prop :=
  rs.Pairwise fun r later => later.char ∉ r.text

instance (rs : List Replacement) : Decidable (InOrder rs) :=
  inferInstanceAs (Decidable (rs.Pairwise _))

/-- A character stays, or the text of a replacement comes in its place. -/
theorem substitute_cases (rs : List Replacement) (c : Char) :
    (∃ r ∈ rs, r.char = c ∧ substitute rs c = r.text) ∨
      (∀ r ∈ rs, r.char ≠ c) ∧ substitute rs c = [c] := by
  induction rs with
  | nil => exact .inr ⟨fun _ h => absurd h List.not_mem_nil, rfl⟩
  | cons r rs ih =>
    rw [substitute, List.forall_mem_cons]
    split
    · next hc => exact .inl ⟨r, List.mem_cons_self, hc.symm, rfl⟩
    · next hc =>
      rcases ih with ⟨s, hs, h⟩ | ⟨hno, h⟩
      · exact .inl ⟨s, List.mem_cons_of_mem _ hs, h⟩
      · exact .inr ⟨⟨Ne.symm hc, hno⟩, h⟩

/-- A text with none of the characters stays. -/
theorem flatMap_substitute_of_notMem {rs : List Replacement} {cs : List Char}
    (h : ∀ r ∈ rs, r.char ∉ cs) : cs.flatMap (substitute rs) = cs := by
  have hsame : ∀ c ∈ cs, substitute rs c = [c] := by
    intro c hc
    rcases substitute_cases rs c with ⟨r, hr, rfl, -⟩ | ⟨-, hs⟩
    · exact absurd hc (h r hr)
    · exact hs
  exact (List.flatMap_congr hsame).trans (List.flatMap_singleton' cs)

/-- **Replacements in order are one step for each character.** -/
theorem replacedAll_eq_flatMap {rs : List Replacement} (h : InOrder rs) (cs : List Char) :
    replacedAll rs cs = cs.flatMap (substitute rs) := by
  induction rs generalizing cs with
  | nil => exact (List.flatMap_singleton' cs).symm
  | cons r rs ih =>
    obtain ⟨hlater, hrest⟩ := List.pairwise_cons.mp h
    have hfirst : replacedAll (r :: rs) cs = replacedAll rs (replaced r cs) := rfl
    rw [hfirst, ih hrest, replaced, List.flatMap_assoc]
    refine List.flatMap_congr fun c _ => ?_
    -- What the first one puts in stays, and another character is left to those behind it.
    rw [substitute]
    split
    · exact flatMap_substitute_of_notMem hlater
    · exact List.flatMap_singleton _ c

/-! ## Literals -/

/-- What stands for the characters that a literal cannot have as they are. -/
def escapes : List Replacement :=
  [⟨'\\', ['\\', '\\']⟩, ⟨'\'', ['\\', '\'']⟩, ⟨'\n', ['\\', 'n']⟩, ⟨'\r', ['\\', 'r']⟩,
    ⟨'\t', ['\\', 't']⟩]

/-- **The inside of a literal is the text after five replacements.** -/
theorem replacedAll_escapes (cs : List Char) : replacedAll escapes cs = escapeChars cs :=
  replacedAll_eq_flatMap (by decide) cs

/-! ## Text between tags -/

/-- The references that stand for the characters that markup takes for its own. -/
def references : List Replacement :=
  [⟨'&', ['&', 'a', 'm', 'p', ';']⟩, ⟨'<', ['&', 'l', 't', ';']⟩, ⟨'>', ['&', 'g', 't', ';']⟩,
    ⟨'\x7b', ['&', '#', '1', '2', '3', ';']⟩, ⟨'\x7d', ['&', '#', '1', '2', '5', ';']⟩]

theorem markupChar_eq_substitute (c : Char) : markupChar c = substitute references c := rfl

/-- **Text between tags is the text after five replacements.** -/
theorem replacedAll_references (cs : List Char) : replacedAll references cs = markupChars cs :=
  replacedAll_eq_flatMap (by decide) cs

end EntitySlice.Source
