import EntitySlice.Source.Line

/-!
# What objects and patterns in code mean

Generated code takes objects apart with patterns and puts them together with object expressions. An
object is what its own properties hold; an object expression adds its members one after the other,
and a later one wins (`Scope.object?`). A pattern names some properties and leaves an object with
all others (`Pattern.scope`).
-/

namespace EntitySlice.Source

variable {α : Type}

/-- An object: what its own properties hold. -/
abbrev Properties (α : Type) := String → Option α

namespace Properties

/-- The object without properties. -/
def empty : Properties α := fun _ => none

/-- The object with a value for a property. -/
def set (o : Properties α) (key : String) (value : α) : Properties α :=
  fun k => if k = key then some value else o k

/-- The object with all properties of another one, which win. -/
def spread (o more : Properties α) : Properties α :=
  fun k => (more k).or (o k)

/-- The object without some of its properties. -/
def without (o : Properties α) (keys : List String) : Properties α :=
  fun k => if k ∈ keys then none else o k

variable (o : Properties α) (key : String) (value : α) (keys : List String)

@[simp] theorem spread_empty : empty.spread o = o := by
  funext k
  simp [spread, empty]

@[simp] theorem set_self : o.set key value key = some value := if_pos rfl

theorem set_of_ne {k : String} (h : k ≠ key) : o.set key value k = o k := if_neg h

theorem without_of_mem {k : String} (h : k ∈ keys) : o.without keys k = none := if_pos h

theorem without_of_notMem {k : String} (h : k ∉ keys) : o.without keys k = o k := if_neg h

/-- A property that is taken out anyway can be set before. -/
theorem without_set {k : String} (h : k ∈ keys) :
    (o.set k value).without keys = o.without keys := by
  funext j
  by_cases hj : j ∈ keys
  · rw [without_of_mem _ _ hj, without_of_mem _ _ hj]
  · have hne : j ≠ k := fun he => hj (he ▸ h)
    rw [without_of_notMem _ _ hj, without_of_notMem _ _ hj, set_of_ne _ _ _ hne]

/-- Properties that do not come from `o` stay what they are. -/
theorem spread_without_of_mem {k : String} (more : Properties α) (h : k ∈ keys) :
    o.spread (more.without keys) k = o k := by
  rw [spread, without_of_mem _ _ h, Option.none_or]

end Properties

/-- What the variables hold that code can see. -/
structure Scope (α : Type) where
  values : String → Option α
  objects : String → Option (Properties α)

namespace Scope

/-- The scope with one variable that holds an object. -/
def ofObject (name : String) (o : Properties α) : Scope α where
  values _ := none
  objects x := if x = name then some o else none

@[simp] theorem objects_ofObject (name : String) (o : Properties α) :
    (ofObject name o).objects name = some o := if_pos rfl

/-- The value of a variable, or of a property of one. A type behind it has no effect on it. -/
def value? (s : Scope α) (expression : String) : Option α :=
  match expression.toList.splitOn ' ' with
  | [] => none
  | term :: _ =>
    match term.splitOn '.' with
    | [x] => s.values (String.ofList x)
    | [x, k] => (s.objects (String.ofList x)).bind (· (String.ofList k))
    | _ => none

/-- The property of a variable, whatever stands behind a blank after it. -/
theorem value?_eq_property (s : Scope α) {expression : String} {x k : List Char}
    {rest : List (List Char)} (h : expression.toList.splitOn ' ' = (x ++ '.' :: k) :: rest)
    (hx : (x ++ '.' :: k).splitOn '.' = [x, k]) :
    s.value? expression = (s.objects (String.ofList x)).bind (· (String.ofList k)) := by
  rw [value?, h]
  simp only [hx]

/-- The object with one more member; a member without a value has no meaning. -/
def extend? (s : Scope α) (o : Properties α) : Member → Option (Properties α)
  | .entry key value => do return o.set (String.ofList (← readKey? key.toList)) (← s.value? value)
  | .shorthand name => (s.values name).map (o.set name)
  | .spread name => (s.objects name).map o.spread

/-- The object that an object expression stands for. -/
def object? (s : Scope α) (members : List Member) : Option (Properties α) :=
  members.foldlM s.extend? .empty

end Scope

/-- The scope that a pattern makes of an object. -/
def Pattern.scope (p : Pattern) (o : Properties α) : Scope α where
  values x := if x ∈ p.names then o x else none
  objects x := if p.rest? = some x then some (o.without p.names) else none

end EntitySlice.Source
