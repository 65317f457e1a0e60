import EntitySlice.Proofs.Planning
import EntitySlice.Proofs.Writing

/-!
# Where a batch goes

A batch that the check accepts lies at or below the directory of the slice, whatever the project
directory looks like: behind its components come names alone. So each file of the batch has a
directory and a place of its own (`placed_of_checkBatch`), and its way leads through the directory
of the slice (`mem_waysOf_slice`).
-/

namespace EntitySlice

open EntitySlice.Slice

variable {e : Entity} {as : List Artifact} {a : Artifact} {root : Path} {current : List String}

/-- The place of the directory of a slice in a project. -/
def Entity.place (e : Entity) (root : Path) (current : List String) : List String :=
  placeFrom current root.components ++ e.sliceNames

/-- The way to the directory of a slice in a project. -/
def Entity.way (e : Entity) (root : Path) (current : List String) : List (List String) :=
  EntitySlice.way current (root.components ++ e.sliceNames.map .name)

/-- An accepted file lies at names in the directory of the slice. -/
theorem exists_names_of_fits (he : e.Accepted) (ha : a.Fits e.sliceDir) :
    ∃ names : List String, a.path.components = (e.sliceNames ++ names).map .name := by
  obtain ⟨names, hn⟩ := (Path.isPlain_iff a.path).mp ha.isPlain
  have hbelow := (Path.isBelow_iff _ _).mp ha.isBelow
  rw [hn, Entity.components_sliceDir he,
    List.prefix_map_iff_of_injective fun m n h => by simpa using h] at hbelow
  obtain ⟨rest, rfl⟩ := hbelow
  exact ⟨rest, hn⟩

/-- In the project it lies at these names behind the components of the project directory. -/
theorem components_join_of_names (root : Path) {names : List String}
    (h : a.path.components = names.map .name) :
    (root.join a.path).components = root.components ++ names.map .name := by
  rw [Path.components_join root ((Path.isPlain_iff _).mpr ⟨names, h⟩), h]

theorem place_of_names (root : Path) (current : List String) {names : List String}
    (h : a.path.components = names.map .name) :
    a.place root current = placeFrom current root.components ++ names := by
  rw [Artifact.place, components_join_of_names root h, placeFrom_append, placeFrom_names]

/-- A path that ends in two names or more lies in a directory. -/
theorem Path.exists_liesIn_of_names {p : Path} {cs : List PathComponent} {names : List String}
    (h : p.components = cs ++ names.map .name) (hlen : 2 ≤ names.length) :
    ∃ d n, p.LiesIn d n ∧ d.components = cs ++ names.dropLast.map .name := by
  obtain ⟨init, n, rfl⟩ : ∃ init n, names = init ++ [n] := by
    refine ⟨_, _, (List.dropLast_concat_getLast ?_).symm⟩
    rintro rfl
    simp at hlen
  obtain ⟨init, m, rfl⟩ : ∃ front m, init = front ++ [m] := by
    refine ⟨_, _, (List.dropLast_concat_getLast ?_).symm⟩
    rintro rfl
    simp at hlen
  have hlast : p.components = (cs ++ init.map .name) ++ [.name m, .name n] := by
    rw [h]
    simp
  obtain ⟨d, hd, hc⟩ := Path.exists_liesIn hlast
  exact ⟨d, n, hd, by rw [hc]; simp⟩

/-- **Each file of an accepted batch has a directory and a place of its own.** -/
theorem placed_of_checkBatch (he : e.Accepted) (hcheck : checkBatch e.sliceDir as = .ok ())
    (root : Path) (current : List String) : Placed root current as := by
  obtain ⟨hfits, hnodup⟩ := checkBatch_eq_ok_iff.mp hcheck
  constructor
  · intro a ha
    obtain ⟨names, hn⟩ := exists_names_of_fits he (hfits a ha)
    obtain ⟨d, n, hp, -⟩ := Path.exists_liesIn_of_names (components_join_of_names root hn)
      (by simp [Entity.sliceNames])
    exact ⟨d, n, hp⟩
  · rw [List.Nodup, List.pairwise_map] at hnodup ⊢
    refine List.Pairwise.imp_of_mem ?_ hnodup
    intro a b ha hb hne hplace
    obtain ⟨names, hn⟩ := exists_names_of_fits he (hfits a ha)
    obtain ⟨more, hm⟩ := exists_names_of_fits he (hfits b hb)
    rw [place_of_names root current hn, place_of_names root current hm] at hplace
    rw [hn, hm, List.append_cancel_left hplace] at hne
    exact hne rfl

/-- The way of an accepted file leads through the directory of the slice, and then below it. -/
theorem mem_waysOf_slice (he : e.Accepted) (hcheck : checkBatch e.sliceDir as = .ok ())
    {q : List String} (hq : q ∈ waysOf root current as) :
    q ∈ e.way root current ∨ e.place root current <+: q := by
  obtain ⟨a, ha, hq⟩ := List.mem_flatMap.mp hq
  obtain ⟨names, hn⟩ := exists_names_of_fits he ((checkBatch_eq_ok_iff.mp hcheck).1 a ha)
  rw [components_join_of_names root hn, List.map_append, ← List.append_assoc, way_append,
    List.mem_append, placeFrom_append, placeFrom_names] at hq
  rcases hq with hq | hq
  · exact Or.inl hq
  · obtain ⟨z, -, -, rfl⟩ := mem_way_names.mp hq
    exact Or.inr (List.prefix_append _ _)

/-- An accepted file lies at or below the directory of the slice. -/
theorem isPrefix_place_of_fits (he : e.Accepted) (ha : a.Fits e.sliceDir) (root : Path)
    (current : List String) : e.place root current <+: a.place root current := by
  obtain ⟨names, hn⟩ := exists_names_of_fits he ha
  rw [place_of_names root current hn, ← List.append_assoc]
  exact List.prefix_append _ _

theorem placeOf_sliceDir (he : e.Accepted) (t : FileTree) (root : Path) :
    t.placeOf (root.join e.sliceDir) = e.place root t.current := by
  have hplain : e.sliceDir.isPlain = true :=
    (Path.isPlain_iff _).mpr ⟨e.sliceNames, Entity.components_sliceDir he⟩
  rw [FileTree.placeOf, Path.components_join root hplain, Entity.components_sliceDir he,
    placeFrom_append, placeFrom_names]
  rfl

end EntitySlice
