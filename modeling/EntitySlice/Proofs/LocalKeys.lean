import EntitySlice.Entity.Field
import Mathlib.Data.List.Nodup
import Mathlib.Data.List.Perm.Subperm

/-!
# Keys of fields

Every field has a key that no other field of its entity has (`nodup_localKeys`): among as many
candidates as there are taken keys and one more, one is free, since all candidates differ. Keys are
made of letters, digits and underscores, so a hyphen ends them wherever they are followed by one.
-/

namespace EntitySlice

open EntitySlice.Number EntitySlice.Source

/-! ## Candidates -/

theorem natText_injective {m n : Nat} (h : natText m = natText n) : m = n := by
  have hchars : natChars m = natChars n := String.ofList_injective h
  have hvalue := congrArg (fun cs => Nat.ofDigitChars 10 cs 0) hchars
  simpa [natChars] using hvalue

theorem isDigit_of_mem_natText {n : Nat} {c : Char} (h : c ∈ (natText n).toList) :
    c.isDigit = true := by
  rw [natText, String.toList_ofList] at h
  exact Nat.isDigit_of_mem_toDigits (by decide) (by decide) h

theorem natText_ne_empty (n : Nat) : natText n ≠ "" := by
  intro h
  have hchars : natChars n = [] := String.ofList_injective h
  exact Nat.toDigits_ne_nil hchars

theorem keyCandidate_injective (base : String) {m n : Nat}
    (h : keyCandidate base m = keyCandidate base n) : m = n := by
  have hnone {a : String} (h : base = base ++ a) : a = "" :=
    base.append_right_inj.mp (h.symm.trans String.append_empty.symm)
  cases m with
  | zero =>
    cases n with
    | zero => rfl
    | succ n => exact absurd (hnone h) (natText_ne_empty _)
  | succ m =>
    cases n with
    | zero => exact absurd (hnone h.symm) (natText_ne_empty _)
    | succ n =>
      have hnumber := natText_injective (base.append_right_inj.mp h)
      omega

/-! ## Free keys -/

variable {taken : Std.HashSet String} {base : String}

/-- If the search ends with a taken key, it has seen nothing but taken keys. -/
theorem keyCandidate_mem_of_freeKeyFrom {fuel n : Nat} (h : freeKeyFrom taken base fuel n ∈ taken) :
    ∀ i ≤ fuel, keyCandidate base (n + i) ∈ taken := by
  induction fuel generalizing n with
  | zero =>
    intro i hi
    obtain rfl := Nat.le_zero.mp hi
    exact h
  | succ fuel ih =>
    rw [freeKeyFrom] at h
    split at h
    · next htaken =>
      intro i hi
      cases i with
      | zero => exact Std.HashSet.mem_iff_contains.mpr htaken
      | succ i =>
        have hi' := ih h i (Nat.le_of_succ_le_succ hi)
        rwa [Nat.add_assoc, Nat.add_comm 1 i] at hi'
    · next hfree => exact absurd (Std.HashSet.mem_iff_contains.mp h) hfree

/-- **The key that is found is not taken.** -/
theorem freeKey_notMem (taken : Std.HashSet String) (base : String) :
    freeKey taken base ∉ taken := by
  intro h
  have hall := keyCandidate_mem_of_freeKeyFrom h
  have hnodup : ((List.range (taken.size + 1)).map (keyCandidate base)).Nodup :=
    List.Nodup.map (fun _ _ => keyCandidate_injective base) List.nodup_range
  have hsub : (List.range (taken.size + 1)).map (keyCandidate base) ⊆ taken.toList := by
    intro k hk
    obtain ⟨i, hi, rfl⟩ := List.mem_map.mp hk
    have hi' := hall i (Nat.le_of_lt_succ (List.mem_range.mp hi))
    rw [Nat.zero_add] at hi'
    exact Std.HashSet.mem_toList.mpr hi'
  have hlength := (List.subperm_of_subset hnodup hsub).length_le
  rw [List.length_map, List.length_range, Std.HashSet.length_toList] at hlength
  omega

/-! ## Fields -/

theorem localKey_notMem_of_mem_ofSpecsAfter {taken : Std.HashSet String} {specs : List FieldSpec}
    {f : Field} (h : f ∈ Field.ofSpecsAfter taken specs) : f.localKey ∉ taken := by
  induction specs generalizing taken with
  | nil => simp [Field.ofSpecsAfter] at h
  | cons s specs ih =>
    rw [Field.ofSpecsAfter] at h
    rcases List.mem_cons.mp h with rfl | h
    · exact freeKey_notMem taken _
    · exact fun hmem => ih h (Std.HashSet.mem_insert.mpr (.inr hmem))

theorem nodup_localKeys_after (taken : Std.HashSet String) (specs : List FieldSpec) :
    ((Field.ofSpecsAfter taken specs).map Field.localKey).Nodup := by
  induction specs generalizing taken with
  | nil => exact List.nodup_nil
  | cons s specs ih =>
    rw [Field.ofSpecsAfter, List.map_cons, List.nodup_cons]
    refine ⟨fun hmem => ?_, ih _⟩
    obtain ⟨f, hf, hkey⟩ := List.mem_map.mp hmem
    exact localKey_notMem_of_mem_ofSpecsAfter hf (hkey ▸ Std.HashSet.mem_insert_self)

/-- **No two fields of an entity have the same key.** -/
theorem nodup_localKeys (specs : List FieldSpec) :
    ((Field.ofSpecs specs).map Field.localKey).Nodup :=
  nodup_localKeys_after {} specs

/-! ## Characters of keys -/

/-- The characters that keys are made of. -/
def isKeyChar (c : Char) : Bool := c.isAlphanum || c = '_'

theorem isKeyChar_of_isDigit {c : Char} (h : c.isDigit = true) : isKeyChar c = true := by
  simp [isKeyChar, Char.isAlphanum, h]

theorem isKeyChar_of_mem_namePart {name : String} {c : Char} (h : c ∈ (namePart name).toList) :
    isKeyChar c = true := by
  have hfilter : ∀ c ∈ (Text.pascalChars name.toList).filter fun c => c.isAlphanum || c = '_',
      isKeyChar c = true := fun c hc => (List.mem_filter.mp hc).2
  rw [namePart, String.toList_ofList, namePartChars] at h
  split at h
  · exact List.all_eq_true.mp (by decide) c h
  · next d rest hrest =>
    rw [hrest] at hfilter
    split at h
    · rcases List.mem_cons.mp h with rfl | h
      · decide
      · exact hfilter c h
    · exact hfilter c h

theorem isKeyChar_of_mem_freeKeyFrom (hbase : ∀ c ∈ base.toList, isKeyChar c = true)
    (fuel n : Nat) : ∀ c ∈ (freeKeyFrom taken base fuel n).toList, isKeyChar c = true := by
  have hcandidate (n : Nat) : ∀ c ∈ (keyCandidate base n).toList, isKeyChar c = true := by
    cases n with
    | zero => exact hbase
    | succ n =>
      rw [keyCandidate, String.toList_append, List.forall_mem_append]
      exact ⟨hbase, fun c hc => isKeyChar_of_isDigit (isDigit_of_mem_natText hc)⟩
  induction fuel generalizing n with
  | zero => exact hcandidate n
  | succ fuel ih =>
    rw [freeKeyFrom]
    split
    · exact ih (n + 1)
    · exact hcandidate n

/-- Keys are made of letters, digits and underscores. -/
theorem isKeyChar_of_mem_localKey {taken : Std.HashSet String} {specs : List FieldSpec} {f : Field}
    (h : f ∈ Field.ofSpecsAfter taken specs) : ∀ c ∈ f.localKey.toList, isKeyChar c = true := by
  induction specs generalizing taken with
  | nil => simp [Field.ofSpecsAfter] at h
  | cons s specs ih =>
    rw [Field.ofSpecsAfter] at h
    rcases List.mem_cons.mp h with rfl | h
    · exact isKeyChar_of_mem_freeKeyFrom (fun _ hc => isKeyChar_of_mem_namePart hc) _ _
    · exact ih h

end EntitySlice
