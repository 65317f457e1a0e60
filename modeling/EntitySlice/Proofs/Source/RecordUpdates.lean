import EntitySlice.Proofs.Source.Records
import EntitySlice.Proofs.Source.TextLines

/-!
# Changed records in generated code

An object expression that spreads a record and gives a value to a name makes a changed record
(`extension?_object`), and a member of it is read by its name (`member?_member`). What was written
is read, and all else is what it was (`Record.stored_changed`). The name `__proto__` is an exception
here too: nothing is written under it (`Record.own_changed_prototypeKey`).
-/

namespace EntitySlice.Source

/-! ## Expressions read back -/

/-- An object expression with all members of a record and a value for a name. -/
structure Extension where
  record : String
  name : String
  value : String
  deriving DecidableEq, Repr

/-- The parts of an object expression that spreads a record and gives a value to a name. -/
def readExtension? (expression : String) : Option Extension := do
  let rest ← "\x7b ...".toList.isPrefixOf? expression.toList
  let record := rest.takeWhile isIdentifierPart
  let rest ← ", ".toList.isPrefixOf? (rest.dropWhile isIdentifierPart)
  let (name, rest) ← readKeyFirst? rest
  let rest ← ": ".toList.isPrefixOf? rest
  let value ← " \x7d".toList.isSuffixOf? rest
  return ⟨String.ofList record, String.ofList name, String.ofList value⟩

/-- The object and the name in an expression for a member. -/
def readMember? (expression : String) : Option (String × String) :=
  let object := String.ofList (expression.toList.takeWhile isIdentifierPart)
  match expression.toList.dropWhile isIdentifierPart with
  | '.' :: name => if isIdentifierChars name then some (object, String.ofList name) else none
  | '[' :: rest =>
    match readLiteral? rest with
    | some (name, [']']) => some (object, String.ofList name)
    | _ => none
  | _ => none

theorem isSuffixOf?_append (as bs : List Char) : bs.isSuffixOf? (as ++ bs) = some as := by
  show (bs.reverse.isPrefixOf? (as ++ bs).reverse).map List.reverse = some as
  rw [List.reverse_append, isPrefixOf?_append, Option.map_some, List.reverse_reverse]

section

variable {x : String} (hx : ∀ c ∈ x.toList, isIdentifierPart c = true)

include hx

theorem takeWhile_isIdentifierPart {c : Char} (hc : isIdentifierPart c = false)
    (rest : List Char) : (x.toList ++ c :: rest).takeWhile isIdentifierPart = x.toList ∧
      (x.toList ++ c :: rest).dropWhile isIdentifierPart = c :: rest :=
  takeWhile_append_of_all hx hc rest

/-- **The expression is read with the name that its key was written for.** -/
theorem readExtension?_object (name value : String) :
    readExtension? (object [.spread x, .entry (propertyKey name) value]) =
      some ⟨x, name, value⟩ := by
  let behindKey := ':' :: ([' '] ++ (value.toList ++ " \x7d".toList))
  let behindRecord := ',' :: ([' '] ++ ((propertyKey name).toList ++ behindKey))
  have hlist : (object [.spread x, .entry (propertyKey name) value]).toList =
      "\x7b ...".toList ++ (x.toList ++ behindRecord) := by
    simp [behindRecord, behindKey, object, inBraces, Member.source, String.intercalate_cons_cons,
      String.intercalate_singleton]
  obtain ⟨htake, hdrop⟩ : (x.toList ++ behindRecord).takeWhile isIdentifierPart = x.toList ∧
      (x.toList ++ behindRecord).dropWhile isIdentifierPart = behindRecord :=
    takeWhile_isIdentifierPart hx rfl _
  have hcomma : ", ".toList.isPrefixOf? behindRecord =
      some ((propertyKey name).toList ++ behindKey) := isPrefixOf?_append _ _
  have hkey : readKeyFirst? ((propertyKey name).toList ++ behindKey) =
      some (name.toList, behindKey) := readKeyFirst?_propertyKey name rfl _
  have hcolon : ": ".toList.isPrefixOf? behindKey = some (value.toList ++ " \x7d".toList) :=
    isPrefixOf?_append _ _
  rw [readExtension?, hlist, isPrefixOf?_append]
  simp only [Option.bind_eq_bind, Option.bind_some, htake, hdrop, hcomma, hkey, hcolon,
    isSuffixOf?_append, String.ofList_toList, Option.pure_def]

/-- **A member is read with the name that the expression was written for.** -/
theorem readMember?_member (name : String) : readMember? (member x name) = some (x, name) := by
  unfold member
  split
  · next h =>
    have hlist : (x ++ "." ++ name).toList = x.toList ++ '.' :: name.toList := by simp
    obtain ⟨htake, hdrop⟩ := takeWhile_isIdentifierPart hx (c := '.') rfl name.toList
    rw [readMember?, hlist, htake, hdrop]
    simp only [String.ofList_toList]
    exact if_pos h
  · have hlist : (x ++ "[" ++ literal name ++ "]").toList =
        x.toList ++ '[' :: (literalChars name.toList ++ [']']) := by
      simp [literal]
    obtain ⟨htake, hdrop⟩ :=
      takeWhile_isIdentifierPart hx (c := '[') rfl (literalChars name.toList ++ [']'])
    rw [readMember?, hlist, htake, hdrop]
    simp only [readLiteral?_literalChars, String.ofList_toList]

end

/-! ## Changed records -/

/-- Whether the value is the one that stands for no object. -/
def Value.isNull : Value → Bool
  | null => true
  | _ => false

namespace Record

/--
The new object with all that a record holds and a value for a name. No object behind the prototype's
key means that the new object comes from none.
-/
def changed (r : Record) (name : String) (v : Value) : Record :=
  if name = prototypeKey && v.isNull then ⟨r.own, v⟩ else put ⟨r.own, .prototype⟩ name v

/-- The value of a member, when `inherited` says what objects get from those they come from. -/
def read (inherited : Value → String → Value) (r : Record) (name : String) : Value :=
  (r.own name).getD <|
    if name = prototypeKey && !r.prototype.isNull then r.prototype else inherited r.prototype name

/--
Whether a value was stored under a name in a record: it is a member of the new record's own, and all
other members are read as before, unless the record had them from an object of its own choice.
-/
structure Stored (inherited : Value → String → Value) (r : Record) (name : String) (v : Value)
    (r' : Record) : Prop where
  own : r'.own name = some v
  read : r'.read inherited name = v
  others : ∀ k ≠ name, r.prototype = .prototype ∨ r.own k ≠ none →
    r'.read inherited k = r.read inherited k

section

variable (r : Record) {name k : String} {v : Value}

theorem changed_of_ne_prototypeKey (h : name ≠ prototypeKey) :
    r.changed name v = put ⟨r.own, .prototype⟩ name v :=
  if_neg (by simp [h])

theorem own_changed_self (h : name ≠ prototypeKey) : (r.changed name v).own name = some v := by
  rw [changed_of_ne_prototypeKey r h, own_put_self _ h]

theorem own_changed_of_ne (h : k ≠ name) : (r.changed name v).own k = r.own k := by
  unfold changed
  split
  · rfl
  · exact own_put_of_ne _ h

theorem prototype_changed (h : name ≠ prototypeKey) :
    (r.changed name v).prototype = .prototype := by
  rw [changed_of_ne_prototypeKey r h, prototype_put_of_ne _ h]

/-- A value for the prototype's key changes nothing that the record holds. -/
theorem own_changed_prototypeKey : (r.changed prototypeKey v).own = r.own := by
  funext k
  by_cases hk : k = prototypeKey
  · subst hk
    unfold changed
    split
    · rfl
    · exact own_put_prototypeKey _
  · exact own_changed_of_ne r hk

theorem prototype_changed_prototypeKey : (r.changed prototypeKey v).prototype =
    if v.isObject || v.isNull then v else .prototype := by
  cases hv : v.isNull with
  | true => simp [changed, hv]
  | false => simp [changed, hv, prototype_put_prototypeKey]

variable (inherited : Value → String → Value)

/-- **What was written is read, and all else is what it was.** -/
theorem stored_changed (h : name ≠ prototypeKey) :
    r.Stored inherited name v (r.changed name v) where
  own := own_changed_self r h
  read := by rw [Record.read, own_changed_self r h, Option.getD_some]
  others := by
    intro k hk hr
    rw [Record.read, Record.read, own_changed_of_ne r hk, prototype_changed r h]
    rcases hr with hr | hr
    · rw [hr]
    · obtain ⟨w, hw⟩ := Option.ne_none_iff_exists'.mp hr
      rw [hw, Option.getD_some, Option.getD_some]

end

end Record

/-! ## Evaluation -/

/-- What the variables for records and the expressions for values come to. -/
structure RecordScope where
  records : String → Option Record
  values : String → Option Value

/-- The record that an object expression with a record and a value in it stands for. -/
def RecordScope.extension? (s : RecordScope) (expression : String) : Option Record := do
  let e ← readExtension? expression
  return (← s.records e.record).changed e.name (← s.values e.value)

/-- The value of an expression for a member of a record. -/
def RecordScope.member? (s : RecordScope) (inherited : Value → String → Value)
    (expression : String) : Option Value := do
  let (x, name) ← readMember? expression
  return (← s.records x).read inherited name

/-- The scope in which a variable holds another record. -/
def RecordScope.assign (s : RecordScope) (x : String) (r : Record) : RecordScope where
  records y := if y = x then some r else s.records y
  values := s.values

namespace RecordScope

variable (s : RecordScope) {x : String} (hx : ∀ c ∈ x.toList, isIdentifierPart c = true)
  {r : Record}

include hx

theorem extension?_object (hr : s.records x = some r) (name : String) {value : String} {v : Value}
    (hv : s.values value = some v) :
    s.extension? (object [.spread x, .entry (propertyKey name) value]) =
      some (r.changed name v) := by
  simp [extension?, readExtension?_object hx, hr, hv]

theorem member?_member (hr : s.records x = some r) (inherited : Value → String → Value)
    (name : String) : s.member? inherited (member x name) = some (r.read inherited name) := by
  simp [member?, readMember?_member hx, hr]

end RecordScope

end EntitySlice.Source
