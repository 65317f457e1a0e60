import EntitySlice.Proofs.Slice.Files

/-!
# Accepted batches

The check of a batch goes through the files and remembers where they lie. `checkBatch_eq_ok_iff`
says which batches it lets through, whatever they were made from; the files of a slice are such a
batch (`checkBatch_artifacts`).
-/

namespace EntitySlice

open EntitySlice.Text

/-- Whether nothing is wrong with a file that belongs into `dir`, looked at alone. -/
structure Artifact.Fits (dir : Path) (a : Artifact) : Prop where
  isPlain : a.path.isPlain = true
  isBelow : a.path.isBelow dir = true
  isNotBlank : isBlankText a.content = false

theorem Artifact.reason?_eq_none_iff {dir : Path} {seen : List (List PathComponent)}
    {a : Artifact} : a.reason? dir seen = none ↔ a.Fits dir ∧ a.path.components ∉ seen := by
  unfold reason?
  constructor
  · intro h
    split at h
    · simp at h
    · next hplain =>
      split at h
      · simp at h
      · next hbelow =>
        split at h
        · simp at h
        · next hseen =>
          split at h
          · simp at h
          · next hblank =>
            exact ⟨⟨by simpa using hplain, by simpa using hbelow, by simpa using hblank⟩,
              by simpa using hseen⟩
  · rintro ⟨⟨hplain, hbelow, hblank⟩, hseen⟩
    simp [hplain, hbelow, hblank, hseen]

/-- The check lets files through that fit and lie at places of their own. -/
theorem checkAfter_eq_ok_iff {dir : Path} {seen : List (List PathComponent)}
    {as : List Artifact} :
    checkAfter dir seen as = .ok () ↔
      (∀ a ∈ as, a.Fits dir ∧ a.path.components ∉ seen) ∧
        (as.map (·.path.components)).Nodup := by
  induction as generalizing seen with
  | nil => simp [checkAfter]
  | cons a rest ih =>
    rw [checkAfter, List.forall_mem_cons, List.map_cons, List.nodup_cons]
    cases hr : a.reason? dir seen with
    | some reason =>
      have hnot : ¬(a.Fits dir ∧ a.path.components ∉ seen) := by
        rw [← Artifact.reason?_eq_none_iff, hr]
        simp
      simp [hnot]
    | none =>
      have hfits := Artifact.reason?_eq_none_iff.mp hr
      simp only [ih, hfits, not_false_eq_true, true_and, List.mem_cons, not_or]
      constructor
      · rintro ⟨hrest, hnodup⟩
        refine ⟨fun b hb => ⟨(hrest b hb).1, (hrest b hb).2.2⟩, ?_, hnodup⟩
        intro hmem
        obtain ⟨b, hb, he⟩ := List.mem_map.mp hmem
        exact (hrest b hb).2.1 he
      · rintro ⟨hrest, hmem, hnodup⟩
        refine ⟨fun b hb => ⟨(hrest b hb).1, ?_, (hrest b hb).2⟩, hnodup⟩
        -- No file of the rest lies where the first one does.
        intro he
        exact hmem (he ▸ List.mem_map_of_mem hb)

/-- **A batch is accepted when each file fits and no two have the same place.** -/
theorem checkBatch_eq_ok_iff {dir : Path} {as : List Artifact} :
    checkBatch dir as = .ok () ↔
      (∀ a ∈ as, a.Fits dir) ∧ (as.map (·.path.components)).Nodup := by
  rw [checkBatch, checkAfter_eq_ok_iff]
  simp

/-! ## The batch of a slice -/

namespace Slice

/-- All files of a slice as they are written. -/
def artifacts (e : Entity) : List Artifact := (files e).map SliceFile.artifact

/-- Different parts have different names. -/
theorem Part.eq_of_name_eq {p q : Part} (h : p.name = q.name) : p = q := by
  have hall : ∀ p ∈ all, ∀ q ∈ all, p.name = q.name → p = q := by decide
  exact hall p (mem_all p) q (mem_all q) h

/-- The file of a part that is one file is told from all others by the name of the part. -/
theorem filter_artifacts {e : Entity} {p : Part} {f : SliceFile} (h : p.singleFile? e = some f) :
    (artifacts e).filter (·.key = p.name) = [f.artifact] := by
  have hne : p ≠ .pickers := by
    rintro rfl
    simp [Part.singleFile?, Part.single?] at h
  have hpickers : ((e.pickers.map (pickerSliceFile e)).map SliceFile.artifact).filter
      (·.key = p.name) = [] := by
    rw [List.filter_eq_nil_iff]
    intro a ha hkey
    obtain ⟨g, hg, rfl⟩ := List.mem_map.mp ha
    obtain ⟨q, -, rfl⟩ := List.mem_map.mp hg
    exact hne (Part.eq_of_name_eq (of_decide_eq_true hkey).symm)
  have hparts : singleParts.filter (·.name = p.name) = [p] := by
    revert hne
    cases p <;> decide
  have hsingles (ps : List Part) :
      ((ps.filterMap (Part.singleFile? e)).map SliceFile.artifact).filter (·.key = p.name) =
        ((ps.filter (·.name = p.name)).filterMap (Part.singleFile? e)).map SliceFile.artifact := by
    induction ps with
    | nil => rfl
    | cons q ps ih =>
      cases hq : q.singleFile? e with
      | none => by_cases hn : q.name = p.name <;> simp [hq, hn, ih]
      | some g =>
        have hkey : g.artifact.key = q.name := by
          obtain ⟨g', -, rfl⟩ := Option.map_eq_some_iff.mp hq
          rfl
        by_cases hn : q.name = p.name <;> simp [hq, hn, hkey, ih]
  rw [artifacts, files, List.map_append, List.filter_append, hpickers, List.append_nil,
    singleFiles, hsingles, hparts, List.filterMap_cons_some h]
  rfl

/-- The files of a slice lie at places of their own. -/
theorem artifacts_apart (e : Entity) :
    (artifacts e).Pairwise fun a b => a.path.Apart b.path :=
  List.pairwise_map.mpr (files_apart e)

/-- The names behind the directory of the slice. -/
theorem exists_components_of_mem_artifacts {e : Entity} {a : Artifact} (ha : a ∈ artifacts e) :
    ∃ names ∈ places, a.path.components = componentsAt e names := by
  obtain ⟨f, hf, rfl⟩ := List.mem_map.mp ha
  exact components_of_mem_files hf

theorem fits_of_mem_artifacts {e : Entity} (he : e.Accepted) {a : Artifact}
    (ha : a ∈ artifacts e) : a.Fits e.sliceDir where
  isPlain := by
    obtain ⟨names, -, hc⟩ := exists_components_of_mem_artifacts ha
    refine (Path.isPlain_iff _).mpr ⟨e.sliceNames ++ names, ?_⟩
    rw [hc, componentsAt, Entity.components_sliceDir he, List.map_append]
  isBelow := by
    obtain ⟨names, -, hc⟩ := exists_components_of_mem_artifacts ha
    rw [Path.isBelow_iff, hc]
    exact List.prefix_append _ _
  isNotBlank := by
    obtain ⟨f, hf, rfl⟩ := List.mem_map.mp ha
    exact isBlankText_of_mem_files he hf

/-- **The files of a slice are accepted.** -/
theorem checkBatch_artifacts {e : Entity} (he : e.Accepted) :
    checkBatch e.sliceDir (artifacts e) = .ok () := by
  refine checkBatch_eq_ok_iff.mpr ⟨fun a ha => fits_of_mem_artifacts he ha, ?_⟩
  rw [List.Nodup, List.pairwise_map]
  refine (artifacts_apart e).imp ?_
  intro a b hab he
  rw [Path.apart_iff, he] at hab
  exact hab.1 List.prefix_rfl

end Slice

end EntitySlice
