import EntitySlice.Proofs.Json.Nesting

/-!
# Documents with other values

The value at a key of an object can be replaced by what is made of it (`Members.modify`). A value
that can be written and read back (`Value.Writable`) stays one when values in it are replaced by
others that can: in objects, in arrays, and where a text is put.
-/

namespace EntitySlice.Json

/-! ## The value at a key -/

namespace Members

/-- The members with `f` applied to the value of `key`. -/
def modify (key : String) (f : Value → Value) (members : Members) : Members :=
  members.map fun m => if m.1 = key then (m.1, f m.2) else m

variable {key : String}

theorem get?_modify_self (key : String) (f : Value → Value) (members : Members) :
    (members.modify key f).get? key = (members.get? key).map f := by
  induction members with
  | nil => rfl
  | cons m members ih =>
    obtain ⟨k, v⟩ := m
    by_cases hk : k = key
    · subst hk
      simp [modify, get?]
    · have hne : (key == k) = false := beq_false_of_ne (Ne.symm hk)
      simpa [modify, get?, hk, hne, List.lookup_cons] using ih

theorem get?_modify_of_ne {other : String} (h : other ≠ key) (f : Value → Value)
    (members : Members) : (members.modify key f).get? other = members.get? other := by
  induction members with
  | nil => rfl
  | cons m members ih =>
    obtain ⟨k, v⟩ := m
    by_cases hk : k = key
    · subst hk
      have hne : (other == k) = false := beq_false_of_ne h
      simpa [modify, get?, hne, List.lookup_cons] using ih
    · by_cases ho : other = k
      · subst ho
        simp [modify, get?, hk]
      · have hne : (other == k) = false := beq_false_of_ne ho
        simpa [modify, get?, hk, hne, List.lookup_cons] using ih

theorem keys_modify (key : String) (f : Value → Value) (members : Members) :
    (members.modify key f).map Prod.fst = members.map Prod.fst := by
  rw [modify, List.map_map]
  refine List.map_congr_left fun m _ => ?_
  rw [Function.comp_apply]
  split <;> rfl

end Members

/-! ## Values that can be written -/

/-- Whether a value can be written and read back where containers leave room for `room` more. -/
structure Value.Writable (room : Nat) (v : Value) : Prop where
  readable : v.Readable room
  floats : v.FloatsReadBack

variable {room : Nat}

theorem Value.writable_bool (b : Bool) : (Value.bool b).Writable room :=
  ⟨.bool b, fun x hx => by simp [Value.numbers] at hx⟩

theorem Value.writable_string (s : String) : (Value.string s).Writable room :=
  ⟨.string s, fun x hx => by simp [Value.numbers] at hx⟩

theorem Value.writable_object {members : Members} :
    (Value.object members).Writable (room + 1) ↔
      (members.map Prod.fst).Nodup ∧ ∀ m ∈ members, m.2.Writable room := by
  constructor
  · rintro ⟨⟨⟩, hx⟩
    next hkeys h =>
      exact ⟨hkeys, fun m hm => ⟨h m hm, fun x hmem => hx x (mem_memberNumbers.mpr ⟨m, hm, hmem⟩)⟩⟩
  · rintro ⟨hkeys, h⟩
    refine ⟨.object hkeys fun m hm => (h m hm).readable, fun x hx => ?_⟩
    obtain ⟨m, hm, hmem⟩ := mem_memberNumbers.mp hx
    exact (h m hm).floats x hmem

theorem Value.writable_array {items : List Value} :
    (Value.array items).Writable (room + 1) ↔ ∀ v ∈ items, v.Writable room := by
  constructor
  · rintro ⟨⟨⟩, hx⟩
    next h =>
      exact fun v hv => ⟨h v hv, fun x hmem => hx x (mem_itemNumbers.mpr ⟨v, hv, hmem⟩)⟩
  · intro h
    refine ⟨.array fun v hv => (h v hv).readable, fun x hx => ?_⟩
    obtain ⟨v, hv, hmem⟩ := mem_itemNumbers.mp hx
    exact (h v hv).floats x hmem

/-- Containers take up room. -/
theorem Value.Writable.exists_room {v : Value} (h : v.Writable room)
    (hv : (∃ members, v = .object members) ∨ ∃ items, v = .array items) : ∃ n, room = n + 1 := by
  obtain ⟨members, rfl⟩ | ⟨items, rfl⟩ := hv
  · cases h.readable
    exact ⟨_, rfl⟩
  · cases h.readable
    exact ⟨_, rfl⟩

/-! ## Edits -/

theorem Value.Writable.insert {members : Members} (h : (Value.object members).Writable room)
    (key : String) (s : String) :
    (Value.object (members.insert key (.string s))).Writable room := by
  obtain ⟨n, rfl⟩ := h.exists_room (.inl ⟨_, rfl⟩)
  obtain ⟨hkeys, hvalues⟩ := writable_object.mp h
  have hreadable : members.Readable n := ⟨hkeys, fun m hm => (hvalues m hm).readable⟩
  refine writable_object.mpr ⟨(hreadable.insert key (.string s)).keys, fun m hm => ?_⟩
  rcases Members.mem_insert hm with rfl | hm
  · exact writable_string s
  · exact hvalues m hm

theorem Value.Writable.modify {members : Members} (h : (Value.object members).Writable room)
    (key : String) {f : Value → Value} (hf : ∀ n v, v.Writable n → (f v).Writable n) :
    (Value.object (members.modify key f)).Writable room := by
  obtain ⟨n, rfl⟩ := h.exists_room (.inl ⟨_, rfl⟩)
  obtain ⟨hkeys, hvalues⟩ := writable_object.mp h
  refine writable_object.mpr ⟨(members.keys_modify key f).symm ▸ hkeys, fun m hm => ?_⟩
  obtain ⟨m', hm', rfl⟩ := List.mem_map.mp hm
  split
  · exact hf n _ (hvalues m' hm')
  · exact hvalues m' hm'

theorem Value.Writable.set {items : List Value} (h : (Value.array items).Writable room) (i : Nat)
    (s : String) : (Value.array (items.set i (.string s))).Writable room := by
  obtain ⟨n, rfl⟩ := h.exists_room (.inr ⟨_, rfl⟩)
  refine writable_array.mpr fun v hv => ?_
  rcases List.mem_or_eq_of_mem_set hv with hv | rfl
  · exact writable_array.mp h v hv
  · exact writable_string s

theorem Value.Writable.map {items : List Value} (h : (Value.array items).Writable room)
    {f : Value → Value} (hf : ∀ n v, v.Writable n → (f v).Writable n) :
    (Value.array (items.map f)).Writable room := by
  obtain ⟨n, rfl⟩ := h.exists_room (.inr ⟨_, rfl⟩)
  refine writable_array.mpr fun v hv => ?_
  obtain ⟨w, hw, rfl⟩ := List.mem_map.mp hv
  exact hf n w (writable_array.mp h w hw)

/-- **A value that can be written is what its text is read as.** -/
theorem Value.Writable.parse? {v : Value} (h : v.Writable maxDepth) :
    Json.parse? (v.indented ++ "\n") = some v :=
  parse?_indented h.readable h.floats

end EntitySlice.Json
