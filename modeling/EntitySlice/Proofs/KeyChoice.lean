import EntitySlice.Proofs.Coverage
import EntitySlice.Proofs.Grammar
import Mathlib.Order.Bounds.Basic

/-!
# How keys are chosen

The key of a field is the part of its name that identifiers may hold, or, when an earlier field has
that key, this part with the least number from two on that makes it new (`KeyChoice`). The fields
before it decide, so that fields added at the end change no key (`ofSpecs_localKeys`).
-/

namespace EntitySlice

open EntitySlice.Number EntitySlice.Source

/-! ## The rule -/

/-- What the key of a field is when the fields before it have the keys `taken`. -/
inductive KeyChoice (taken : List String) (name : String) : String → Prop
  | plain (hfree : namePart name ∉ taken) : KeyChoice taken name (namePart name)
  | numbered {n : Nat} (htaken : namePart name ∈ taken)
    (hleast : IsLeast {n | 2 ≤ n ∧ namePart name ++ natText n ∉ taken} n) :
    KeyChoice taken name (namePart name ++ natText n)

/-- The rule leaves no choice. -/
theorem KeyChoice.unique {taken : List String} {name key key' : String}
    (h : KeyChoice taken name key) (h' : KeyChoice taken name key') : key = key' := by
  cases h with
  | plain hfree =>
    cases h' with
    | plain => rfl
    | numbered htaken => exact absurd htaken hfree
  | numbered htaken hleast =>
    cases h' with
    | plain hfree => exact absurd htaken hfree
    | numbered _ hleast' => rw [hleast.unique hleast']

/-- The search goes from candidate to candidate, and all that it leaves behind are taken. -/
theorem exists_candidate (taken : Std.HashSet String) (base : String) (fuel n : Nat) :
    ∃ m, freeKeyFrom taken base fuel n = keyCandidate base (n + m) ∧
      ∀ i < m, keyCandidate base (n + i) ∈ taken := by
  induction fuel generalizing n with
  | zero => exact ⟨0, rfl, by simp⟩
  | succ fuel ih =>
    rw [freeKeyFrom]
    split
    · next htaken =>
      obtain ⟨m, hm, hbehind⟩ := ih (n + 1)
      refine ⟨m + 1, by rw [hm, Nat.add_right_comm, Nat.add_assoc], fun i hi => ?_⟩
      cases i with
      | zero => exact Std.HashSet.mem_iff_contains.mpr htaken
      | succ i =>
        have hi' := hbehind i (Nat.lt_of_succ_lt_succ hi)
        rwa [Nat.add_right_comm, Nat.add_assoc] at hi'
    · exact ⟨0, rfl, by simp⟩

/-- **The search ends with the key that the rule asks for.** -/
theorem keyChoice_freeKey {taken : Std.HashSet String} {keys : List String}
    (hkeys : ∀ k, k ∈ taken ↔ k ∈ keys) (name : String) :
    KeyChoice keys name (freeKey taken (namePart name)) := by
  have hfree := freeKey_notMem taken (namePart name)
  obtain ⟨m, hm, hbehind⟩ := exists_candidate taken (namePart name) taken.size 0
  rw [← freeKey] at hm
  simp only [Nat.zero_add, hkeys] at hm hbehind
  rw [hkeys, hm] at hfree
  rw [hm]
  cases m with
  | zero => exact .plain hfree
  | succ m =>
    refine .numbered (hbehind 0 (Nat.succ_pos m)) ⟨⟨Nat.le_add_left 2 m, hfree⟩, ?_⟩
    rintro n ⟨hn, hnew⟩
    -- A smaller number belongs to a candidate that the search has left behind.
    refine Nat.le_of_not_lt fun hlt => hnew ?_
    obtain ⟨i, rfl⟩ := Nat.exists_eq_add_of_le' hn
    exact hbehind (i + 1) (by omega)

/-! ## The form of keys -/

theorem ofForm_namePart (name : String) : OfForm isKeyStart isKeyChar (namePart name) := by
  have hfilter : ∀ c ∈ (Text.pascalChars name.toList).filter fun c => c.isAlphanum || c = '_',
      isKeyChar c = true := fun c hc => (List.mem_filter.mp hc).2
  rw [namePart, namePartChars]
  split
  · exact ofForm_ofList_cons.mpr ⟨by decide, List.all_eq_true.mp (by decide)⟩
  · next c rest hrest =>
    rw [hrest, List.forall_mem_cons] at hfilter
    split
    · exact ofForm_ofList_cons.mpr ⟨by decide, List.forall_mem_cons.mpr hfilter⟩
    · next hdigit =>
      refine ofForm_ofList_cons.mpr ⟨?_, hfilter.2⟩
      have hc := hfilter.1
      rw [isKeyChar, Char.isAlphanum, Bool.or_eq_true, Bool.or_eq_true] at hc
      rw [isKeyStart, Bool.or_eq_true]
      exact hc.imp_left fun h => h.resolve_right hdigit

theorem KeyChoice.ofForm {taken : List String} {name key : String} (h : KeyChoice taken name key) :
    OfForm isKeyStart isKeyChar key := by
  cases h with
  | plain => exact ofForm_namePart name
  | numbered =>
    exact (ofForm_namePart name).append fun c hc => isKeyChar_of_isDigit (isDigit_of_mem_natText hc)

/-! ## Fields one after the other -/

/-- Each field has the key that the rule gives it behind the fields before it. -/
theorem keyChoice_ofSpecsAfter {taken : Std.HashSet String} {earlier : List Field}
    (hkeys : ∀ k, k ∈ taken ↔ k ∈ earlier.map Field.localKey) {specs : List FieldSpec}
    {before : List Field} {f : Field} (h : before ++ [f] <+: Field.ofSpecsAfter taken specs) :
    KeyChoice ((earlier ++ before).map Field.localKey) f.name f.localKey := by
  induction specs generalizing taken earlier before with
  | nil => simp [Field.ofSpecsAfter] at h
  | cons s specs ih =>
    rw [Field.ofSpecsAfter] at h
    cases before with
    | nil =>
      obtain rfl := (List.cons_prefix_cons.mp h).1
      rw [List.append_nil]
      exact keyChoice_freeKey hkeys s.name
    | cons g before =>
      rw [List.cons_append, List.cons_prefix_cons] at h
      obtain ⟨rfl, h⟩ := h
      rw [List.append_cons]
      refine ih (fun k => ?_) h
      rw [Std.HashSet.mem_insert, hkeys, List.map_append, List.mem_append, List.map_singleton,
        List.mem_singleton, beq_iff_eq, or_comm, eq_comm]

/-- Fields that come later leave the earlier ones as they are. -/
theorem exists_ofSpecsAfter_append (taken : Std.HashSet String) (specs more : List FieldSpec) :
    ∃ taken', Field.ofSpecsAfter taken (specs ++ more) =
      Field.ofSpecsAfter taken specs ++ Field.ofSpecsAfter taken' more := by
  induction specs generalizing taken with
  | nil => exact ⟨taken, rfl⟩
  | cons s specs ih =>
    obtain ⟨taken', h⟩ := ih (taken.insert (freeKey taken (namePart s.name)))
    exact ⟨taken', by rw [List.cons_append, Field.ofSpecsAfter, h, Field.ofSpecsAfter]; rfl⟩

/--
**Keys are unique, safe and stable.** Each description of a list gives one field, in order; the keys
of the fields differ and are of the form `[A-Za-z_][A-Za-z0-9_]*`; each is the part of the name that
identifiers may hold, followed by the least number from two on that makes it new if an earlier field
has it already; and descriptions that are added at the end change no field before them.
-/
theorem ofSpecs_localKeys (specs more : List FieldSpec) :
    (Field.ofSpecs specs).map (fun f => (f.spec, f.classification)) =
        specs.map (fun s => (s, s.classification)) ∧
      ((Field.ofSpecs specs).map Field.localKey).Nodup ∧
      (∀ f ∈ Field.ofSpecs specs, OfForm isKeyStart isKeyChar f.localKey) ∧
      (∀ before f, before ++ [f] <+: Field.ofSpecs specs → ∀ key,
        KeyChoice (before.map Field.localKey) f.name key ↔ key = f.localKey) ∧
      (Field.ofSpecs (specs ++ more)).take specs.length = Field.ofSpecs specs := by
  have hspecs := map_ofSpecs (fun s c => (s, c)) specs
  have hnone (k : String) :
      k ∈ (∅ : Std.HashSet String) ↔ k ∈ ([] : List Field).map Field.localKey := by simp
  have hchoice : ∀ before f, before ++ [f] <+: Field.ofSpecs specs →
      KeyChoice (before.map Field.localKey) f.name f.localKey := fun before f h =>
    keyChoice_ofSpecsAfter hnone h
  refine ⟨hspecs, nodup_localKeys specs, fun f hf => ?_, fun before f h key => ?_, ?_⟩
  · obtain ⟨before, after, h⟩ := List.append_of_mem hf
    exact (hchoice before f ⟨after, by rw [h, List.append_assoc]; rfl⟩).ofForm
  · have hkey := hchoice before f h
    exact ⟨fun hk => hk.unique hkey, fun hk => hk ▸ hkey⟩
  · have hlength : specs.length = (Field.ofSpecs specs).length := by
      simpa using (congrArg List.length hspecs).symm
    obtain ⟨taken, h⟩ := exists_ofSpecsAfter_append {} specs more
    rw [Field.ofSpecs, h, hlength]
    exact List.take_left

/-- Fields whose names differ in a capital or in a number. -/
def nameSpecs : List FieldSpec :=
  ["name", "Name", "name2"].map fun name => ⟨name, "text", none, none⟩

theorem ofSpecs_localKeys_nameSpecs :
    (Field.ofSpecs nameSpecs).map Field.localKey = ["Name", "Name2", "Name22"] := by
  have hname : namePart "name" = "Name" ∧ namePart "Name" = "Name" ∧
      namePart "name2" = "Name2" := by decide +kernel
  have htwo : natText 2 = "2" := by decide +kernel
  obtain ⟨f, g, h, hfields, hf, hg, hh⟩ : ∃ f g h, Field.ofSpecs nameSpecs = [f, g, h] ∧
      f.name = "name" ∧ g.name = "Name" ∧ h.name = "name2" := ⟨_, _, _, rfl, rfl, rfl, rfl⟩
  obtain ⟨-, -, -, hchoice, -⟩ := ofSpecs_localKeys nameSpecs []
  rw [hfields] at hchoice ⊢
  -- The second key that is tried is new each time.
  have second {taken : List String} {name : String} (htaken : namePart name ∈ taken)
      (hnew : namePart name ++ "2" ∉ taken) : KeyChoice taken name (namePart name ++ "2") := by
    rw [← htwo] at hnew ⊢
    exact .numbered htaken ⟨⟨le_rfl, hnew⟩, fun n hn => hn.1⟩
  have hfkey : namePart f.name = f.localKey := (hchoice [] f (by simp) _).mp (.plain (by simp))
  rw [hf, hname.1] at hfkey
  have hgkey : namePart g.name ++ "2" = g.localKey := by
    refine (hchoice [f] g (by simp) _).mp (second ?_ ?_) <;> simp [hg, hname.2.1, ← hfkey]
  rw [hg, hname.2.1] at hgkey
  have hhkey : namePart h.name ++ "2" = h.localKey := by
    refine (hchoice [f, g] h (by simp) _).mp (second ?_ ?_) <;>
      simp [hh, hname.2.2, ← hfkey, ← hgkey]
  rw [hh, hname.2.2] at hhkey
  simp [← hfkey, ← hgkey, ← hhkey]

end EntitySlice
