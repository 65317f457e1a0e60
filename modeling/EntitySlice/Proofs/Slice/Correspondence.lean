import EntitySlice.Proofs.References
import EntitySlice.Proofs.Slice.Essence
import Mathlib.Data.List.Forall2

/-!
# Slices with the same code

Two entities with the same essence have slices that correspond file by file
(`forall₂_files`): the files belong to the same parts, lie at the same places in the directories of
their slices and hold the same code. Only the copy of the schema is free, and the query client has
an address of its own.
-/

namespace EntitySlice.Slice

open EntitySlice.Source

/-! ## The texts of the paths -/

/-- A path behind another one, whose text is known as far as a directory. -/
theorem text_div_div {p : Path} {dir s t : String} {c : Char} (hp : p.text = dir ++ "/" ++ s)
    (hlast : s.toList.getLast? = some c) (hc : c ≠ '/') (ht : (⟨t⟩ : Path).isAbsolute = false) :
    (p / t).text = dir ++ "/" ++ (s ++ "/" ++ t) := by
  have hend : p.text.toList.getLast? = some c := by
    rw [hp]
    exact getLast?_toList_append hlast
  rw [Path.text_div ht hend hc, hp]
  simp only [String.append_assoc]

section

variable {e : Entity} (h : e.Accepted)

include h

theorem text_sliceDir_div {s : String} (hs : (⟨s⟩ : Path).isAbsolute = false) :
    (e.sliceDir / s).text = e.sliceDir.text ++ "/" ++ s := by
  rw [Entity.text_sliceDir_div h hs, Entity.text_sliceDir h]

theorem text_pageDir_div {s : String} (hs : (⟨s⟩ : Path).isAbsolute = false) :
    (e.pageDir / s).text = e.sliceDir.text ++ "/" ++ ("all" ++ "/" ++ s) :=
  text_div_div (text_sliceDir_div h (by decide)) (c := 'l') (by decide) (by decide) hs

theorem text_componentDir_div {s : String} (hs : (⟨s⟩ : Path).isAbsolute = false) :
    (e.componentDir / s).text = e.sliceDir.text ++ "/" ++ ("all/components" ++ "/" ++ s) :=
  text_div_div (text_pageDir_div h (by decide)) (c := 's') (by decide) (by decide) hs

/-- The path of a part is written with its names and single slashes. -/
theorem text_of_single? {p : Part} {path : Path} {content : Content}
    (hs : p.single? e = some (path, content)) :
    path.text = e.sliceDir.text ++ "/" ++ "/".intercalate p.names := by
  cases p with
  | pickers => simp [Part.single?] at hs
  | sliceSchema | model | controller | route =>
    obtain ⟨rfl, -⟩ := Prod.mk.inj (Option.some.inj hs)
    exact text_sliceDir_div h (by decide)
  | querySlice | uiStore | entityData | page =>
    obtain ⟨rfl, -⟩ := Prod.mk.inj (Option.some.inj hs)
    exact text_pageDir_div h (by decide)
  | _ =>
    obtain ⟨rfl, -⟩ := Prod.mk.inj (Option.some.inj hs)
    exact text_componentDir_div h (by decide)

theorem text_pickerPath (p : Picker) :
    (Part.pickerPath e p).text = e.sliceDir.text ++ "/" ++ "/".intercalate (pickerNames p) := by
  have dir : (Part.pickersDir e).text
      = e.sliceDir.text ++ "/" ++ "all/components/others-field-type" :=
    text_componentDir_div h (by decide)
  have file := text_div_div (t := p.component ++ ".tsx") dir (c := 'e') (by decide) (by decide)
    (by cases p <;> decide)
  rw [Part.pickerPath, file]
  cases p <;> rfl

end

/-! ## Corresponding files -/

/-- Two files at the same place, each in the slice of its own entity. -/
structure Corresponds (e e' : Entity) (f f' : SliceFile) : Prop where
  part : f.part = f'.part
  place : ∃ s, f.path.text = e.sliceDir.text ++ "/" ++ s ∧
    f'.path.text = e'.sliceDir.text ++ "/" ++ s
  code : f.part.IsCode → f.content = f'.content
  client : f.part = .querySlice →
    f.content = .source (queryClient e) ∧ f'.content = .source (queryClient e')

section

variable {e e' : Entity} (he : e.Accepted) (he' : e'.Accepted)

include he he'

theorem corresponds_pickerSliceFile (p : Picker) :
    Corresponds e e' (pickerSliceFile e p) (pickerSliceFile e' p) where
  part := rfl
  place := ⟨_, text_pickerPath he p, text_pickerPath he' p⟩
  code := fun _ => rfl
  client := fun h => by cases h

variable (h : e.essence = e'.essence)

include h

theorem corresponds_singleFile? {p : Part} {f f' : SliceFile} (hf : p.singleFile? e = some f)
    (hf' : p.singleFile? e' = some f') : Corresponds e e' f f' := by
  obtain ⟨⟨path, content⟩, hs, rfl⟩ := Option.map_eq_some_iff.mp hf
  obtain ⟨⟨path', content'⟩, hs', rfl⟩ := Option.map_eq_some_iff.mp hf'
  refine ⟨rfl, ⟨_, text_of_single? he hs, text_of_single? he' hs'⟩, ?_, ?_⟩
  · intro hp
    have hc : p.content? e = p.content? e' := by
      rw [← content?_essence e hp, h, content?_essence e' hp]
    rw [Part.content?, Part.content?, hs, hs'] at hc
    exact Option.some.inj hc
  · rintro rfl
    exact ⟨(Prod.mk.inj (Option.some.inj hs)).2.symm, (Prod.mk.inj (Option.some.inj hs')).2.symm⟩

/-- **Entities with the same essence have slices that correspond.** -/
theorem forall₂_files : List.Forall₂ (Corresponds e e') (files e) (files e') := by
  have single : ∀ ps : List Part, (∀ p ∈ ps, p ≠ .pickers) →
      List.Forall₂ (Corresponds e e') (ps.filterMap (Part.singleFile? e))
        (ps.filterMap (Part.singleFile? e')) := by
    intro ps hps
    induction ps with
    | nil => exact .nil
    | cons p ps ih =>
      rw [List.forall_mem_cons] at hps
      obtain ⟨f, hf⟩ := Part.exists_singleFile? hps.1 e
      obtain ⟨f', hf'⟩ := Part.exists_singleFile? hps.1 e'
      rw [List.filterMap_cons_some hf, List.filterMap_cons_some hf']
      exact .cons (corresponds_singleFile? he he' h hf hf') (ih hps.2)
  have pickers : e.pickers = e'.pickers := by
    rw [← e.pickers_essence, h, e'.pickers_essence]
  rw [files, files, ← pickers]
  refine List.rel_append (single singleParts (by decide)) ?_
  rw [List.forall₂_map_left_iff, List.forall₂_map_right_iff, List.forall₂_same]
  exact fun p _ => corresponds_pickerSliceFile he he' p

end

end EntitySlice.Slice
