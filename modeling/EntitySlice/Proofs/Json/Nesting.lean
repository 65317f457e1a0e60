import EntitySlice.Proofs.Json.Written
import Mathlib.Data.List.Nodup

/-!
# Which values are read, and from which tokens

The machine gives a value when its containers nest no deeper than allowed, no object in it has a key
twice and its whole numbers stay within 64 bits: `Value.Readable`. It gives such values only
(`readable_of_parse?`), and each of them from its own tokens (`ofTokens?_tokens`). So reading undoes
writing (`parse?_indented`).
-/

namespace EntitySlice.Json

/-- Whether a value can be read where containers leave room for `room` more. -/
inductive Value.Readable : (room : Nat) → Value → Prop
  | null {room : Nat} : Readable room .null
  | bool {room : Nat} (b : Bool) : Readable room (.bool b)
  | number {room : Nat} {n : Number} (h : n.InRange) : Readable room (.number n)
  | string {room : Nat} (s : String) : Readable room (.string s)
  | array {room : Nat} {items : List Value} (h : ∀ v ∈ items, Readable room v) :
    Readable (room + 1) (.array items)
  | object {room : Nat} {members : List (String × Value)} (keys : (members.map Prod.fst).Nodup)
    (h : ∀ m ∈ members, Readable room m.2) : Readable (room + 1) (.object members)

/-! ## Reading the tokens of a value -/

/-- A key that is not there yet goes to the end. -/
theorem Members.insert_of_notMem {k : String} {members : Members} (h : k ∉ members.map Prod.fst)
    (v : Value) : members.insert k v = members ++ [(k, v)] := by
  induction members with
  | nil => rfl
  | cons m rest ih =>
    obtain ⟨k', w⟩ := m
    rw [List.map_cons, List.mem_cons, not_or] at h
    rw [insert, if_neg (Ne.symm h.1), ih h.2, List.cons_append]

namespace ReadState

variable {outer : List Frame}

theorem run_cons (s : ReadState) (t : Token) (ts : List Token) :
    s.run (t :: ts) = (s.step t).bind (run · ts) := rfl

/-- No value starts with the end of an array. -/
theorem exists_tokens_eq (v : Value) : ∃ t ts, v.tokens = t :: ts ∧ t ≠ .closeArray := by
  cases v <;> exact ⟨_, _, rfl, by simp⟩

theorem step_firstItem {t : Token} (h : t ≠ .closeArray) (outer : List Frame) :
    (firstItem outer).step t = (value (.item [] :: outer)).step t := by
  cases t with
  | closeArray => exact absurd rfl h
  | _ => rfl

/-- An array is read when each of its items is read in it. -/
theorem run_itemTokens {items : List Value} (hne : items ≠ [])
    (h : ∀ v ∈ items, ∀ done, (value (.item done :: outer)).run v.tokens =
      some (after v (.item done :: outer))) (done : List Value) :
    (value (.item done :: outer)).run (itemTokens items ++ [.closeArray]) =
      some (after (.array (done.reverse ++ items)) outer) := by
  induction items generalizing done with
  | nil => exact absurd rfl hne
  | cons v more ih =>
    rw [List.forall_mem_cons] at h
    cases more with
    | nil =>
      rw [itemTokens, run_append, h.1 done, Option.bind_some]
      simp [run, step]
    | cons w more =>
      have hmore := ih (by simp) h.2 (v :: done)
      rw [itemTokens, List.append_assoc, run_append, h.1 done, Option.bind_some, List.cons_append,
        run_cons]
      simp only [step, Option.bind_some, hmore]
      simp

/-- An object is read when each of its members is read in it, and their keys are new. -/
theorem run_memberTokens {members : Members} (hne : members ≠ [])
    (h : ∀ m ∈ members, ∀ done, (value (.member done m.1 :: outer)).run m.2.tokens =
      some (after m.2 (.member done m.1 :: outer))) (done : Members)
    (hkeys : ((done ++ members).map Prod.fst).Nodup) :
    (key done outer).run (memberTokens members ++ [.closeObject]) =
      some (after (.object (done ++ members)) outer) := by
  induction members generalizing done with
  | nil => exact absurd rfl hne
  | cons m more ih =>
    obtain ⟨k, v⟩ := m
    rw [List.forall_mem_cons] at h
    have hnew : k ∉ done.map Prod.fst := by
      rw [List.map_append, List.map_cons, List.nodup_middle, List.nodup_cons] at hkeys
      exact fun hk => hkeys.1 (List.mem_append_left _ hk)
    cases more with
    | nil =>
      rw [memberTokens, List.cons_append, List.cons_append, run_cons]
      simp only [step, Option.bind_some]
      rw [run_cons]
      simp only [step, Option.bind_some]
      rw [run_append, h.1 done, Option.bind_some]
      simp [run, step, Members.insert_of_notMem hnew]
    | cons w more =>
      have hmore := ih (by simp) h.2 (done ++ [(k, v)]) (by simpa using hkeys)
      rw [memberTokens, List.cons_append, List.cons_append, run_cons]
      simp only [step, Option.bind_some]
      rw [run_cons]
      simp only [step, Option.bind_some]
      rw [List.append_assoc, run_append, h.1 done, Option.bind_some, List.cons_append, run_cons]
      simp only [step, Option.bind_some, Members.insert_of_notMem hnew, hmore]
      simp

/-- **A readable value is read from its tokens.** -/
theorem run_tokens {room : Nat} {v : Value} (h : v.Readable room) (outer : List Frame)
    (hroom : outer.length + room ≤ maxDepth) :
    (value outer).run v.tokens = some (after v outer) := by
  induction h generalizing outer with
  | null | bool b | number h | string s => rfl
  | @array room items h ih =>
    have hopen : (value outer).step .openArray = some (firstItem outer) := by
      rw [step, start, if_pos (by omega)]
    rw [Value.tokens, run_cons, hopen, Option.bind_some]
    cases items with
    | nil => rfl
    | cons v more =>
      obtain ⟨t, ts, htokens, ht⟩ := exists_tokens_eq v
      -- The first token of the first item shows that the array does not end here.
      have hfirst : (firstItem outer).run (itemTokens (v :: more) ++ [.closeArray]) =
          (value (.item [] :: outer)).run (itemTokens (v :: more) ++ [.closeArray]) := by
        cases more <;>
          simp only [itemTokens, htokens, List.cons_append, run_cons, step_firstItem ht]
      rw [hfirst, run_itemTokens (by simp)]
      · rfl
      · intro w hw done
        exact ih w hw _ (by simp only [List.length_cons]; omega)
  | @object room members keys h ih =>
    have hopen : (value outer).step .openObject = some (firstKey outer) := by
      rw [step, start, if_pos (by omega)]
    rw [Value.tokens, run_cons, hopen, Option.bind_some]
    cases members with
    | nil => rfl
    | cons m more =>
      have hfirst : (firstKey outer).run (memberTokens (m :: more) ++ [.closeObject]) =
          (key [] outer).run (memberTokens (m :: more) ++ [.closeObject]) := by
        cases more <;> rfl
      rw [hfirst, run_memberTokens (by simp) _ [] keys]
      · rfl
      · intro w hw done
        exact ih w hw _ (by simp only [List.length_cons]; omega)

end ReadState

theorem ofTokens?_tokens {v : Value} (h : v.Readable maxDepth) : ofTokens? v.tokens = some v := by
  rw [ofTokens?, ReadState.run_tokens h [] (by simp)]

/-! ## What is read is readable -/

/-- Whether the number that a token is stays within its range. -/
def Token.InRange : Token → Prop
  | .number n => n.InRange
  | _ => True

theorem inRange_of_lexeme? {c : Char} {rest r : List Char} {t : Token}
    (h : lexeme? c rest = some (t, r)) : t.InRange := by
  unfold lexeme? at h
  split at h
  · next t' _ hm =>
    obtain ⟨rfl, -⟩ := Prod.mk.inj (Option.some.inj h)
    unfold mark? at hm
    repeat (split at hm; · (obtain rfl := Option.some.inj hm; trivial))
    simp at hm
  · next word t' _ hl =>
    obtain ⟨_, -, h⟩ := Option.map_eq_some_iff.mp h
    obtain ⟨rfl, -⟩ := Prod.mk.inj h
    unfold literal? at hl
    repeat (split at hl; · (obtain ⟨-, rfl⟩ := Prod.mk.inj (Option.some.inj hl); trivial))
    simp at hl
  · split at h
    · obtain ⟨_, -, h⟩ := Option.map_eq_some_iff.mp h
      obtain ⟨rfl, -⟩ := Prod.mk.inj h
      trivial
    · split at h
      all_goals
        obtain ⟨⟨n, r'⟩, hn, h⟩ := Option.map_eq_some_iff.mp h
        obtain ⟨rfl, -⟩ := Prod.mk.inj h
        exact inRange_of_lexNumber hn

theorem inRange_of_scanAfter {done ts : List Token} {cs : List Char}
    (h : scanAfter done cs = some ts) (hdone : ∀ t ∈ done, t.InRange) : ∀ t ∈ ts, t.InRange := by
  fun_induction scanAfter done cs with
  | case1 done =>
    obtain rfl := Option.some.inj h
    simpa using hdone
  | case2 done c rest hs ih => exact ih h hdone
  | case3 done c rest hs hl => simp at h
  | case4 done c rest hs t r hl ih =>
    exact ih h (List.forall_mem_cons.mpr ⟨inRange_of_lexeme? hl, hdone⟩)

/-- Whether members can be read in an object. -/
structure Members.Readable (room : Nat) (members : Members) : Prop where
  keys : (members.map Prod.fst).Nodup
  values : ∀ m ∈ members, m.2.Readable room

theorem Members.readable_nil (room : Nat) : Members.Readable room [] :=
  ⟨List.nodup_nil, by simp⟩

theorem Members.mem_insert {k : String} {v : Value} {members : Members} {m : String × Value}
    (h : m ∈ members.insert k v) : m = (k, v) ∨ m ∈ members := by
  induction members with
  | nil => exact Or.inl (List.mem_singleton.mp h)
  | cons n rest ih =>
    rw [insert] at h
    split at h
    · next hk =>
      rcases List.mem_cons.mp h with rfl | h
      · exact Or.inl (by rw [hk])
      · exact Or.inr (List.mem_cons_of_mem _ h)
    · rcases List.mem_cons.mp h with rfl | h
      · exact Or.inr List.mem_cons_self
      · exact (ih h).imp_right (List.mem_cons_of_mem _)

theorem Members.mem_keys_insert {k j : String} {v : Value} {members : Members}
    (h : j ∈ (members.insert k v).map Prod.fst) : j = k ∨ j ∈ members.map Prod.fst := by
  obtain ⟨m, hm, rfl⟩ := List.mem_map.mp h
  rcases Members.mem_insert hm with rfl | hm
  · exact Or.inl rfl
  · exact Or.inr (List.mem_map_of_mem hm)

/-- Inserting a member keeps each key single. -/
theorem Members.Readable.insert {room : Nat} {members : Members} (h : members.Readable room)
    (k : String) {v : Value} (hv : v.Readable room) : (members.insert k v).Readable room := by
  refine ⟨?_, fun m hm => ?_⟩
  · have hkeys := h.keys
    clear h
    induction members with
    | nil => simp [Members.insert]
    | cons n rest ih =>
      obtain ⟨k', w⟩ := n
      rw [List.map_cons, List.nodup_cons] at hkeys
      rw [Members.insert]
      split
      · rw [List.map_cons, List.nodup_cons]
        exact hkeys
      · next hk =>
        rw [List.map_cons, List.nodup_cons]
        refine ⟨fun hmem => ?_, ih hkeys.2⟩
        rcases Members.mem_keys_insert hmem with he | he
        · exact hk he
        · exact hkeys.1 he
  · rcases Members.mem_insert hm with rfl | hm
    · exact hv
    · exact h.values m hm

/-- Whether what a container holds so far can be read in it. -/
def Frame.Readable (room : Nat) : Frame → Prop
  | .item done => ∀ v ∈ done, v.Readable room
  | .member done _ => done.Readable room

/-- Whether containers around a value are not too many and hold what can be read in them. -/
def FramesReadable : List Frame → Prop
  | [] => True
  | f :: outer =>
    outer.length < maxDepth ∧ f.Readable (maxDepth - (outer.length + 1)) ∧ FramesReadable outer

namespace ReadState

/-- What holds of every state of a reading. -/
def Readable : ReadState → Prop
  | .value outer => FramesReadable outer
  | .firstItem outer | .firstKey outer => outer.length < maxDepth ∧ FramesReadable outer
  | .key done outer | .colon done _ outer =>
    outer.length < maxDepth ∧ done.Readable (maxDepth - (outer.length + 1)) ∧ FramesReadable outer
  | .after v outer => v.Readable (maxDepth - outer.length) ∧ FramesReadable outer

theorem readable_start {outer : List Frame} (h : FramesReadable outer) {t : Token}
    (ht : t.InRange) {s : ReadState} (hs : start outer t = some s) : s.Readable := by
  cases t with
  | null =>
    obtain rfl := Option.some.inj hs
    exact ⟨.null, h⟩
  | bool b =>
    obtain rfl := Option.some.inj hs
    exact ⟨.bool b, h⟩
  | number n =>
    obtain rfl := Option.some.inj hs
    exact ⟨.number ht, h⟩
  | string s =>
    obtain rfl := Option.some.inj hs
    exact ⟨.string s, h⟩
  | openArray | openObject =>
    obtain ⟨hroom, hs⟩ := Option.ite_none_right_eq_some.mp hs
    obtain rfl := Option.some.inj hs
    exact ⟨hroom, h⟩
  | closeArray | closeObject | comma | colon => simp [start] at hs

/-- There is room for the container that is closed. -/
theorem room_succ {outer : List Frame} (h : outer.length < maxDepth) :
    maxDepth - outer.length = maxDepth - (outer.length + 1) + 1 := by
  omega

/-- After a value its container goes on or is closed. -/
theorem readable_of_step_after {v : Value} {outer : List Frame} (h : (after v outer).Readable)
    {t : Token} {s : ReadState} (hs : (after v outer).step t = some s) : s.Readable := by
  obtain ⟨hv, houter⟩ := h
  cases outer with
  | nil => cases t <;> simp [ReadState.step] at hs
  | cons f outer =>
    obtain ⟨hroom, hf, houter⟩ := houter
    cases f with
    | item done =>
      have hdone : ∀ w ∈ v :: done, w.Readable (maxDepth - (outer.length + 1)) :=
        List.forall_mem_cons.mpr ⟨hv, hf⟩
      cases t with
      | comma =>
        obtain rfl := Option.some.inj hs
        exact ⟨hroom, hdone, houter⟩
      | closeArray =>
        obtain rfl := Option.some.inj hs
        refine ⟨?_, houter⟩
        rw [room_succ hroom]
        exact .array fun w hw => hdone w (List.mem_reverse.mp hw)
      | _ => simp [ReadState.step] at hs
    | member done k =>
      have hdone : (done.insert k v).Readable (maxDepth - (outer.length + 1)) := hf.insert k hv
      cases t with
      | comma =>
        obtain rfl := Option.some.inj hs
        exact ⟨hroom, hdone, houter⟩
      | closeObject =>
        obtain rfl := Option.some.inj hs
        refine ⟨?_, houter⟩
        rw [room_succ hroom]
        exact .object hdone.keys hdone.values
      | _ => simp [ReadState.step] at hs

/-- **A token takes a readable state to a readable one.** -/
theorem Readable.step {s s' : ReadState} (h : s.Readable) {t : Token} (ht : t.InRange)
    (hs : s.step t = some s') : s'.Readable := by
  cases s with
  | value outer => exact readable_start h ht hs
  | firstItem outer =>
    by_cases hclose : t = .closeArray
    · subst hclose
      obtain rfl := Option.some.inj hs
      refine ⟨?_, h.2⟩
      rw [room_succ h.1]
      exact .array (by simp)
    · have hframes : FramesReadable (.item [] :: outer) := ⟨h.1, by simp [Frame.Readable], h.2⟩
      rw [step_firstItem hclose] at hs
      exact readable_start hframes ht hs
  | firstKey outer =>
    cases t with
    | closeObject =>
      obtain rfl := Option.some.inj hs
      refine ⟨?_, h.2⟩
      rw [room_succ h.1]
      exact .object List.nodup_nil (by simp)
    | string k =>
      obtain rfl := Option.some.inj hs
      exact ⟨h.1, Members.readable_nil _, h.2⟩
    | _ => simp [ReadState.step] at hs
  | key done outer =>
    cases t with
    | string k =>
      obtain rfl := Option.some.inj hs
      exact h
    | _ => simp [ReadState.step] at hs
  | colon done k outer =>
    cases t with
    | colon =>
      obtain rfl := Option.some.inj hs
      exact h
    | _ => simp [ReadState.step] at hs
  | after v outer => exact readable_of_step_after h hs

/-- So do the tokens of a whole run. -/
theorem Readable.run {s s' : ReadState} (h : s.Readable) {ts : List Token}
    (ht : ∀ t ∈ ts, t.InRange) (hs : s.run ts = some s') : s'.Readable := by
  induction ts generalizing s with
  | nil =>
    obtain rfl := Option.some.inj hs
    exact h
  | cons t ts ih =>
    rw [List.forall_mem_cons] at ht
    obtain ⟨u, hu, hrun⟩ := Option.bind_eq_some_iff.mp hs
    exact ih (h.step ht.1 hu) ht.2 hrun

end ReadState

/-- **What is read of a text is readable.** -/
theorem readable_of_parse? {s : String} {v : Value} (h : parse? s = some v) :
    v.Readable maxDepth := by
  obtain ⟨ts, hscan, hread⟩ := Option.bind_eq_some_iff.mp h
  have ht := inRange_of_scanAfter hscan (by simp)
  have hstart : (ReadState.value []).Readable := trivial
  unfold ofTokens? at hread
  split at hread
  · next v' hrun =>
    obtain rfl := Option.some.inj hread
    exact (hstart.run ht hrun).1
  · simp at hread

/-! ## Indented text is read back -/

theorem Value.Readable.inRange {room : Nat} {v : Value} (h : v.Readable room) :
    ∀ n ∈ v.numbers, n.InRange := by
  induction h with
  | null | bool | string =>
    intro n hn
    simp [numbers] at hn
  | number h =>
    intro n hn
    rwa [List.mem_singleton.mp hn]
  | array h ih =>
    intro n hn
    obtain ⟨v, hv, hn⟩ := mem_itemNumbers.mp hn
    exact ih v hv n hn
  | object keys h ih =>
    intro n hn
    obtain ⟨m, hm, hn⟩ := mem_memberNumbers.mp hn
    exact ih m hm n hn

/-- Whether each floating-point number in a value is what its own text is read as. -/
def Value.FloatsReadBack (v : Value) : Prop :=
  ∀ x, .float x ∈ v.numbers → (Number.float x).ReadsBack

/-- All numbers in a readable value read back if the floating-point numbers do. -/
theorem Value.Readable.readsBack {room : Nat} {v : Value} (h : v.Readable room)
    (hx : v.FloatsReadBack) : ∀ n ∈ v.numbers, n.ReadsBack := by
  intro n hn
  cases n with
  | integer n => exact Number.readsBack_integer (h.inRange _ hn)
  | float x => exact hx x hn

/-- **A readable value is what its indented text is read as**, if the floating-point numbers in it
read back. -/
theorem parse?_indented {v : Value} (h : v.Readable maxDepth) (hx : v.FloatsReadBack) :
    parse? (v.indented ++ "\n") = some v := by
  have htext : (v.indented ++ "\n").toList = v.indentedBefore 0 ['\n'] := by
    rw [Value.indented, String.toList_append, String.toList_ofList, indentedBefore_append]
    rfl
  have hscan : scan ['\n'] = some [] := by
    rw [scan_space (by decide), scan_nil]
  rw [parse?, htext,
    scan_indentedBefore (h.readsBack hx) 0 _ (endsNumeral_cons (by decide) (by decide) []), hscan]
  simpa using ofTokens?_tokens h

end EntitySlice.Json
