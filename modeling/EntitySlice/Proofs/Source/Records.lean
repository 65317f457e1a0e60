import EntitySlice.Proofs.Source.Expressions
import EntitySlice.Proofs.Source.Objects

/-!
# Records in generated code

An object expression with entries makes a record: what it holds itself, and the object that it comes
from. Where no name comes twice, the record holds the value of each entry under its name
(`Record.own_putAll_of_mem`). The name `__proto__` is an exception: nothing is held under it, and an
object behind it becomes the one that the record comes from (`Record.prototype_putAll_of_mem`).
-/

namespace EntitySlice.Source

/-- The key for a name is read as the name. -/
theorem readKey?_propertyKey (name : String) :
    readKey? (propertyKey name).toList = some name.toList := by
  unfold propertyKey
  split
  · next h => exact if_pos h
  · -- A literal begins with a quote, so it is no identifier.
    have hliteral : (literal name).toList = literalChars name.toList := by simp [literal]
    have hquote : isIdentifierChars (literalChars name.toList) = false := rfl
    have hread := readLiteral?_literalChars name.toList []
    rw [List.append_nil] at hread
    rw [readKey?, hliteral, hquote, if_neg Bool.false_ne_true, hread]

/-- An object with what it holds itself and the object that it comes from. -/
structure Record where
  own : Properties Value
  prototype : Value

namespace Record

/-- The object without properties. -/
def empty : Record := ⟨.empty, .prototype⟩

/-- The key that gives the object that an object comes from. -/
def prototypeKey : String := "__proto__"

/--
The object with one more member of its object expression. The member with the prototype's key says
which object it comes from; a value that is no object is passed over there.
-/
def put (r : Record) (name : String) (v : Value) : Record :=
  if name = prototypeKey then if v.isObject then { r with prototype := v } else r
  else { r with own := r.own.set name v }

/-- The object with more members, one after the other. -/
def putAll (r : Record) (members : List (String × Value)) : Record :=
  members.foldl (fun r m => r.put m.1 m.2) r

/-- The value of a member, if it is the object's own or the object that it comes from. -/
def member? (r : Record) (name : String) : Option Value :=
  (r.own name).or (if name = prototypeKey then some r.prototype else none)

/-- The object with the member that an entry of an object expression adds. -/
def extend? (value? : String → String → Option Value) (r : Record) : Member → Option Record
  | .entry key expression => do
    let name := String.ofList (← readKey? key.toList)
    return r.put name (← value? name expression)
  | .shorthand _ | .spread _ => none

/--
The object that an object expression with entries stands for, when `value?` says what the expression
behind a name comes to.
-/
def ofMembers? (value? : String → String → Option Value) (members : List Member) : Option Record :=
  members.foldlM (extend? value?) empty

section

variable (r : Record) {name k : String} {v : Value} {members : List (String × Value)}

theorem own_put_self (h : name ≠ prototypeKey) : (r.put name v).own name = some v := by
  rw [put, if_neg h]
  exact r.own.set_self name v

theorem own_put_of_ne (h : k ≠ name) : (r.put name v).own k = r.own k := by
  unfold put
  split
  · split <;> rfl
  · exact r.own.set_of_ne name v h

theorem prototype_put_of_ne (h : name ≠ prototypeKey) : (r.put name v).prototype = r.prototype := by
  rw [put, if_neg h]

theorem prototype_put_prototypeKey :
    (r.put prototypeKey v).prototype = if v.isObject then v else r.prototype := by
  rw [put, if_pos rfl]
  split <;> rfl

/-- Nothing is held under the key for the object that the record comes from. -/
theorem own_put_prototypeKey : (r.put name v).own prototypeKey = r.own prototypeKey := by
  by_cases h : prototypeKey = name
  · subst h
    rw [put, if_pos rfl]
    split <;> rfl
  · exact own_put_of_ne r h

theorem own_putAll_of_notMem (h : k ∉ members.map Prod.fst) :
    (r.putAll members).own k = r.own k := by
  induction members generalizing r with
  | nil => rfl
  | cons m members ih =>
    rw [List.map_cons, List.mem_cons, not_or] at h
    exact (ih _ h.2).trans (own_put_of_ne r h.1)

theorem own_putAll_prototypeKey (members : List (String × Value)) :
    (r.putAll members).own prototypeKey = r.own prototypeKey := by
  induction members generalizing r with
  | nil => rfl
  | cons m members ih => exact (ih _).trans (own_put_prototypeKey r)

theorem prototype_putAll_of_notMem (h : prototypeKey ∉ members.map Prod.fst) :
    (r.putAll members).prototype = r.prototype := by
  induction members generalizing r with
  | nil => rfl
  | cons m members ih =>
    rw [List.map_cons, List.mem_cons, not_or] at h
    exact (ih _ h.2).trans (prototype_put_of_ne r (Ne.symm h.1))

/-- Members with different names stand before and behind a member that has none of their names. -/
theorem exists_split_of_mem (hnodup : (members.map Prod.fst).Nodup) (h : (name, v) ∈ members) :
    ∃ before after, members = before ++ (name, v) :: after ∧
      name ∉ before.map Prod.fst ∧ name ∉ after.map Prod.fst := by
  obtain ⟨before, after, rfl⟩ := List.append_of_mem h
  rw [List.map_append, List.map_cons, List.nodup_append, List.nodup_cons] at hnodup
  obtain ⟨-, ⟨hafter, -⟩, hdisjoint⟩ := hnodup
  exact ⟨before, after, rfl, fun hmem => hdisjoint _ hmem _ List.mem_cons_self rfl, hafter⟩

/-- **A record holds what its members say**, if no name comes twice. -/
theorem own_putAll_of_mem (hnodup : (members.map Prod.fst).Nodup) (h : (name, v) ∈ members)
    (hname : name ≠ prototypeKey) : (r.putAll members).own name = some v := by
  obtain ⟨before, after, rfl, -, hafter⟩ := exists_split_of_mem hnodup h
  rw [putAll, List.foldl_append, List.foldl_cons]
  exact (own_putAll_of_notMem _ hafter).trans (own_put_self _ hname)

/-- **An object under the prototype's key is what the record comes from.** -/
theorem prototype_putAll_of_mem (hnodup : (members.map Prod.fst).Nodup)
    (h : (prototypeKey, v) ∈ members) :
    (r.putAll members).prototype = if v.isObject then v else r.prototype := by
  obtain ⟨before, after, rfl, hbefore, hafter⟩ := exists_split_of_mem hnodup h
  rw [putAll, List.foldl_append, List.foldl_cons]
  refine (prototype_putAll_of_notMem _ hafter).trans ?_
  rw [prototype_put_prototypeKey]
  exact congrArg (ite _ v) (prototype_putAll_of_notMem r hbefore)

end

/-- **An object expression makes a record of the values of its entries.** -/
theorem ofMembers?_map {α : Type} {value? : String → String → Option Value} {items : List α}
    {name expression : α → String} {value : α → Value}
    (h : ∀ a ∈ items, value? (name a) (expression a) = some (value a)) :
    ofMembers? value? (items.map fun a => .entry (propertyKey (name a)) (expression a)) =
      some (empty.putAll (items.map fun a => (name a, value a))) := by
  have hfold (r : Record) : (items.map fun a =>
      Member.entry (propertyKey (name a)) (expression a)).foldlM (extend? value?) r =
        some (r.putAll (items.map fun a => (name a, value a))) := by
    induction items generalizing r with
    | nil => rfl
    | cons a items ih =>
      rw [List.forall_mem_cons] at h
      have hstep : extend? value? r (.entry (propertyKey (name a)) (expression a)) =
          some (r.put (name a) (value a)) := by
        simp [extend?, readKey?_propertyKey, h.1]
      rw [List.map_cons, List.foldlM_cons, hstep]
      exact ih h.2 _
  exact hfold empty

end Record

end EntitySlice.Source
