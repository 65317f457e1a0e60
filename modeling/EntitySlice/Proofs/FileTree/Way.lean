import EntitySlice.FileTree

/-!
# The way to a place

The components of a path lead from place to place, whatever is there: `way` is the list of places
that they lead through and `placeFrom` the one that they lead to. A path can be located when there
are directories all along its way (`locate_eq_ok_iff`), so what an operation on a path does depends
on nothing but its way and its end.

* `Agree` — two trees hold the same at some places
* `Grown` — a tree holds directories more than another, at some places
-/

namespace EntitySlice

/-- The place that a component leads to. -/
def PathComponent.step (place : List String) : PathComponent → List String
  | .root => []
  | .here => place
  | .up => place.dropLast
  | .name n => place ++ [n]

/-- Whether a component is short enough. -/
def PathComponent.fits (limits : FileLimits) : PathComponent → Bool
  | .name n => !FileLimits.isExceeded limits.name? n
  | _ => true

/-- The place that components lead to. -/
def placeFrom (place : List String) (cs : List PathComponent) : List String :=
  cs.foldl PathComponent.step place

/-- The places that components lead through, before the one that they lead to. -/
def way (place : List String) : List PathComponent → List (List String)
  | [] => []
  | c :: rest => place :: way (c.step place) rest

/-- The places that components lead through, and the one that they lead to. -/
def stops (place : List String) (cs : List PathComponent) : List (List String) :=
  way place cs ++ [placeFrom place cs]

/-! ## Places -/

@[simp] theorem placeFrom_nil (place : List String) : placeFrom place [] = place := rfl

@[simp] theorem placeFrom_cons (place : List String) (c : PathComponent)
    (cs : List PathComponent) : placeFrom place (c :: cs) = placeFrom (c.step place) cs := rfl

theorem placeFrom_append (place : List String) (cs ds : List PathComponent) :
    placeFrom place (cs ++ ds) = placeFrom (placeFrom place cs) ds :=
  List.foldl_append

/-- Names lead further down. -/
theorem placeFrom_names (place names : List String) :
    placeFrom place (names.map .name) = place ++ names := by
  induction names generalizing place with
  | nil => simp
  | cons n names ih => simp [PathComponent.step, ih]

theorem way_append (place : List String) (cs ds : List PathComponent) :
    way place (cs ++ ds) = way place cs ++ way (placeFrom place cs) ds := by
  induction cs generalizing place with
  | nil => rfl
  | cons c cs ih => simp [way, ih]

/-- The way of a path to a name ends in the directory of the name. -/
theorem way_concat (place : List String) (cs : List PathComponent) (c : PathComponent) :
    way place (cs ++ [c]) = stops place cs :=
  way_append place cs [c]

theorem stops_cons (place : List String) (c : PathComponent) (cs : List PathComponent) :
    stops place (c :: cs) = place :: stops (c.step place) cs := rfl

theorem self_mem_stops (place : List String) (cs : List PathComponent) :
    place ∈ stops place cs := by
  cases cs <;> simp [stops, way]

theorem placeFrom_mem_stops (place : List String) (cs : List PathComponent) :
    placeFrom place cs ∈ stops place cs := by
  simp [stops]

theorem mem_stops_of_mem_way {place q : List String} {cs : List PathComponent}
    (h : q ∈ way place cs) : q ∈ stops place cs :=
  List.mem_append_left _ h

/-- On the way along names are the places that the first of them lead to. -/
theorem mem_way_names {place names q : List String} :
    q ∈ way place (names.map .name) ↔ ∃ z, z <+: names ∧ z ≠ names ∧ q = place ++ z := by
  induction names generalizing place with
  | nil => simp [way]
  | cons n names ih =>
    rw [List.map_cons, way, List.mem_cons, ih]
    constructor
    · rintro (rfl | ⟨z, hz, hne, rfl⟩)
      · exact ⟨[], List.nil_prefix, by simp, by simp⟩
      · exact ⟨n :: z, (List.prefix_cons_inj n).mpr hz, by simpa using hne,
          by simp [PathComponent.step]⟩
    · rintro ⟨z, hz, hne, rfl⟩
      cases z with
      | nil => exact Or.inl (by simp)
      | cons m z =>
        obtain ⟨rfl, -⟩ := List.cons_prefix_cons.mp hz
        refine Or.inr ⟨z, ?_, ?_, by simp [PathComponent.step]⟩
        · exact (List.prefix_cons_inj m).mp hz
        · simpa using hne

/-- Behind a common way, names lead to the places that the first of them lead to. -/
theorem mem_stops_append_names {place names q : List String} {cs : List PathComponent}
    (h : q ∈ stops place (cs ++ names.map .name)) :
    q ∈ stops place cs ∨ ∃ z, z <+: names ∧ z ≠ [] ∧ q = placeFrom place cs ++ z := by
  rw [stops, way_append, placeFrom_append, placeFrom_names, List.mem_append, List.mem_append,
    List.mem_singleton, mem_way_names] at h
  -- No names at all lead to the end of the common way.
  have hpre : ∀ z, z <+: names → q = placeFrom place cs ++ z →
      q ∈ stops place cs ∨ ∃ z, z <+: names ∧ z ≠ [] ∧ q = placeFrom place cs ++ z := by
    intro z hz hq
    by_cases hne : z = []
    · exact Or.inl (by rw [hq, hne, List.append_nil]; exact placeFrom_mem_stops place cs)
    · exact Or.inr ⟨z, hz, hne, hq⟩
  rcases h with (h | ⟨z, hz, -, hq⟩) | hq
  · exact Or.inl (mem_stops_of_mem_way h)
  · exact hpre z hz hq
  · exact hpre names List.prefix_rfl hq

namespace FileTree

/-- The place that a path leads to. -/
def placeOf (t : FileTree) (p : Path) : List String := placeFrom t.current p.components

/-! ## Trees that agree -/

/-- Whether two trees hold the same at the places in `S`. -/
structure Agree (S : List String → Prop) (t t' : FileTree) : Prop where
  current : t'.current = t.current
  limits : t'.limits = t.limits
  find? : ∀ q, S q → t'.find? q = t.find? q

/-- Whether two trees hold the same everywhere. -/
def Same (t t' : FileTree) : Prop := Agree (fun _ => True) t t'

namespace Agree

variable {S : List String → Prop} {t t' u : FileTree}

theorem refl (t : FileTree) : Agree S t t := ⟨rfl, rfl, fun _ _ => rfl⟩

theorem symm (h : Agree S t t') : Agree S t' t :=
  ⟨h.current.symm, h.limits.symm, fun q hq => (h.find? q hq).symm⟩

theorem trans (h : Agree S t t') (h' : Agree S t' u) : Agree S t u :=
  ⟨h'.current.trans h.current, h'.limits.trans h.limits,
    fun q hq => (h'.find? q hq).trans (h.find? q hq)⟩

/-- The same change at one place keeps the agreement. -/
theorem put (h : Agree S t t') {place : List String} (hp : place ≠ []) (e : FileEntry) :
    Agree S (t.put place e) (t'.put place e) where
  current := h.current
  limits := h.limits
  find? := by
    intro q hq
    rw [find?_put _ hp, find?_put _ hp, h.find? q hq]

end Agree

/-! ## Trees with directories more -/

/-- Whether `t'` holds what `t` holds, and directories at some of `places` where nothing was. -/
structure Grown (places : List (List String)) (t t' : FileTree) : Prop where
  current : t'.current = t.current
  limits : t'.limits = t.limits
  find? : ∀ q, t'.find? q = t.find? q ∨
    q ∈ places ∧ t.find? q = none ∧ t'.find? q = some .directory

namespace Grown

variable {places more : List (List String)} {t t' u : FileTree}

theorem refl (t : FileTree) : Grown places t t := ⟨rfl, rfl, fun _ => Or.inl rfl⟩

theorem mono (h : Grown places t t') (hs : ∀ q ∈ places, q ∈ more) : Grown more t t' where
  current := h.current
  limits := h.limits
  find? := by
    intro q
    rcases h.find? q with he | ⟨hq, hn, hd⟩
    · exact Or.inl he
    · exact Or.inr ⟨hs q hq, hn, hd⟩

/-- What is there stays what it is. -/
theorem find?_of_some (h : Grown places t t') {q : List String} {e : FileEntry}
    (he : t.find? q = some e) : t'.find? q = some e := by
  rcases h.find? q with hq | ⟨-, hn, -⟩
  · rw [hq, he]
  · rw [he] at hn
    simp at hn

theorem trans (h : Grown places t t') (h' : Grown places t' u) : Grown places t u where
  current := h'.current.trans h.current
  limits := h'.limits.trans h.limits
  find? := by
    intro q
    rcases h.find? q with he | ⟨hq, hn, hd⟩
    · rw [← he]
      exact h'.find? q
    · exact Or.inr ⟨hq, hn, h'.find?_of_some hd⟩

/-- A new directory is the least growth. -/
theorem put {place : List String} (hp : place ≠ []) (hq : place ∈ places)
    (hn : t.find? place = none) : Grown places t (t.put place .directory) where
  current := rfl
  limits := rfl
  find? := by
    intro q
    rw [find?_put t hp]
    by_cases h : q = place
    · subst h
      exact Or.inr ⟨hq, hn, by simp⟩
    · exact Or.inl (by simp [h])

end Grown

/-! ## Locating -/

theorem locate_cons_of_directory {t : FileTree} {place : List String}
    (h : t.find? place = some .directory) (c : PathComponent) (cs : List PathComponent) :
    t.locate place (c :: cs) =
      if c.fits t.limits then t.locate (c.step place) cs else .error .nameTooLong := by
  cases c with
  | name n =>
    by_cases hn : FileLimits.isExceeded t.limits.name? n = true <;>
      simp [locate, h, PathComponent.fits, PathComponent.step, hn]
  | _ => simp [locate, h, PathComponent.fits, PathComponent.step]

theorem locate_cons_of_ne {t : FileTree} {place : List String}
    (h : t.find? place ≠ some .directory) (c : PathComponent) (cs : List PathComponent) :
    ∃ e, t.locate place (c :: cs) = .error e := by
  cases hf : t.find? place with
  | none => exact ⟨.notFound, by simp [locate, hf]⟩
  | some e =>
    cases e with
    | file content => exact ⟨.notDirectory, by simp [locate, hf]⟩
    | directory => exact absurd hf h

/-- **Components are located when directories are all along their way and no name is too long.** -/
theorem locate_eq_ok_iff {t : FileTree} {place : List String} {cs : List PathComponent}
    {q : List String} :
    t.locate place cs = .ok q ↔
      q = placeFrom place cs ∧ (∀ r ∈ way place cs, t.find? r = some .directory) ∧
        ∀ c ∈ cs, c.fits t.limits = true := by
  induction cs generalizing place with
  | nil =>
    rw [locate, Except.ok.injEq]
    constructor
    · rintro rfl
      simp [way]
    · rintro ⟨rfl, -, -⟩
      rfl
  | cons c cs ih =>
    rw [placeFrom_cons, way, List.forall_mem_cons, List.forall_mem_cons]
    by_cases hd : t.find? place = some .directory
    · rw [locate_cons_of_directory hd]
      by_cases hc : c.fits t.limits = true
      · rw [if_pos hc, ih]
        simp only [hd, hc, true_and]
      · rw [if_neg hc]
        simp [hc]
    · obtain ⟨e, he⟩ := locate_cons_of_ne hd c cs
      rw [he]
      simp [hd]

/-- What is located depends on the way alone. -/
theorem locate_congr {S : List String → Prop} {t t' : FileTree} (h : Agree S t t')
    {place : List String} {cs : List PathComponent} (hw : ∀ q ∈ way place cs, S q) :
    t'.locate place cs = t.locate place cs := by
  induction cs generalizing place with
  | nil => rfl
  | cons c cs ih =>
    rw [way, List.forall_mem_cons] at hw
    have hf := h.find? place hw.1
    by_cases hd : t.find? place = some .directory
    · rw [locate_cons_of_directory hd, locate_cons_of_directory (hf.trans hd), h.limits, ih hw.2]
    · cases he : t.find? place with
      | none => simp [locate, hf, he]
      | some e =>
        cases e with
        | file content => simp [locate, hf, he]
        | directory => exact absurd he hd

end FileTree

end EntitySlice
