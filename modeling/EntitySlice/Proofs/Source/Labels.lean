import EntitySlice.Number.Whole
import EntitySlice.Proofs.Source.Elements
import Mathlib.Data.List.Nodup

/-!
# Ids and labels

A label names the id of the element that it is for, so the elements that a page shows must have
different ids. An element in a row has an id for each row.

* `Labelled` — whether the ids of elements differ and each label is for one of the elements
* `labelled_behindLabels_iff` — elements behind labels of their own need different ids and no more
-/

namespace EntitySlice.Source

open EntitySlice.Number

namespace Element

/-- The ids that an element has on a page with `rows` rows. -/
def ids (rows : Nat) (e : Element) : List String :=
  match e.get? "id" with
  | some (.text s) => [s]
  | some (.numbered stem) => (List.range rows).map fun i => stem ++ "-" ++ natText i
  | _ => []

/-- Whether a label can be for the element. -/
def isControl (e : Element) : Bool :=
  ["input", "select", "textarea"].contains e.tag || isComponentTag e.tag

/-- Whether an element has an id or is a label. -/
def isNamed (e : Element) : Bool :=
  e.attributes.any fun a => a.name = "id" || a.name = "htmlFor"

@[simp] theorem isNamed_mk (tag : String) (attributes : List Attribute) :
    (⟨tag, attributes⟩ : Element).isNamed =
      attributes.any fun a => a.name = "id" || a.name = "htmlFor" := rfl

theorem get?_of_not_isNamed {e : Element} (h : e.isNamed = false) :
    e.get? "id" = none ∧ e.get? "htmlFor" = none := by
  rw [isNamed, List.any_eq_false] at h
  have hnone {name : String} (hname : name = "id" ∨ name = "htmlFor") : e.get? name = none := by
    rw [get?, List.find?_eq_none.mpr, Option.map_none]
    intro a ha he
    obtain rfl := of_decide_eq_true he
    exact h a ha (by simpa using hname)
  exact ⟨hnone (.inl rfl), hnone (.inr rfl)⟩

theorem ids_eq_nil {rows : Nat} {e : Element} (h : e.get? "id" = none) : e.ids rows = [] := by
  rw [ids, h]

theorem ids_of_text {rows : Nat} {e : Element} {s : String} (h : e.get? "id" = some (.text s)) :
    e.ids rows = [s] := by
  rw [ids, h]

theorem ids_of_numbered {rows : Nat} {e : Element} {stem : String}
    (h : e.get? "id" = some (.numbered stem)) :
    e.ids rows = (List.range rows).map fun i => stem ++ "-" ++ natText i := by
  rw [ids, h]

end Element

/--
Whether the ids of elements differ on a page with `rows` rows, and each label names the id of one
element, which takes input.
-/
structure Labelled (rows : Nat) (es : List Element) : Prop where
  nodup : (es.flatMap (Element.ids rows)).Nodup
  labels : ∀ l ∈ es, ∀ v, l.get? "htmlFor" = some v → ∃ s e, v = .text s ∧
    es.filter (fun e => (e.ids rows).contains s) = [e] ∧ e.isControl = true

/-- Elements without ids that are no labels do not matter. -/
theorem labelled_filter_isNamed (rows : Nat) (es : List Element) :
    Labelled rows (es.filter Element.isNamed) ↔ Labelled rows es := by
  have hids : (es.filter Element.isNamed).flatMap (Element.ids rows) =
      es.flatMap (Element.ids rows) := by
    induction es with
    | nil => rfl
    | cons e es ih =>
      rw [List.filter_cons, List.flatMap_cons]
      split
      · rw [List.flatMap_cons, ih]
      · next h =>
        rw [Element.ids_eq_nil (Element.get?_of_not_isNamed (Bool.eq_false_iff.mpr h)).1,
          List.nil_append, ih]
  have hholders (s : String) :
      (es.filter Element.isNamed).filter (fun e => (e.ids rows).contains s) =
        es.filter fun e => (e.ids rows).contains s := by
    rw [List.filter_filter]
    refine List.filter_congr fun e _ => ?_
    cases h : e.isNamed with
    | true => rw [Bool.and_true]
    | false => simp [Element.ids_eq_nil (Element.get?_of_not_isNamed h).1]
  constructor
  · rintro ⟨hnodup, hlabels⟩
    refine ⟨hids ▸ hnodup, fun l hl v hv => ?_⟩
    have hnamed : l.isNamed = true := by
      refine eq_true_of_ne_false fun h => ?_
      rw [(Element.get?_of_not_isNamed h).2] at hv
      simp at hv
    simpa only [hholders] using hlabels l (List.mem_filter.mpr ⟨hl, hnamed⟩) v hv
  · rintro ⟨hnodup, hlabels⟩
    refine ⟨hids ▸ hnodup, fun l hl v hv => ?_⟩
    simpa only [hholders] using hlabels l (List.mem_filter.mp hl).1 v hv

/-- Without labels only the ids matter. -/
theorem labelled_iff_nodup {rows : Nat} {es : List Element}
    (h : ∀ e ∈ es, e.get? "htmlFor" = none) :
    Labelled rows es ↔ (es.flatMap (Element.ids rows)).Nodup := by
  refine ⟨Labelled.nodup, fun hnodup => ⟨hnodup, fun l hl v hv => ?_⟩⟩
  rw [h l hl] at hv
  simp at hv

/-! ## Elements behind labels of their own -/

/-- Whether the element takes input and has the text for its id. -/
structure Element.TakesInput (e : Element) (id : String) : Prop where
  isControl : e.isControl = true
  noLabel : e.get? "htmlFor" = none
  hasId : e.get? "id" = some (.text id)

/-- Whether the element is a label for an id. -/
structure Element.IsLabelFor (l : Element) (id : String) : Prop where
  htmlFor : l.get? "htmlFor" = some (.text id)
  noId : l.get? "id" = none

/-- Where all images differ, one element has the image of an element. -/
theorem filter_eq_singleton {α β : Type} [DecidableEq β] {f : α → β} {as : List α}
    (h : (as.map f).Nodup) {a : α} (ha : a ∈ as) : as.filter (fun b => f b = f a) = [a] := by
  induction as with
  | nil => simp at ha
  | cons b as ih =>
    rw [List.map_cons, List.nodup_cons] at h
    rcases List.mem_cons.mp ha with rfl | ha
    · rw [List.filter_cons_of_pos (by simp), List.filter_eq_nil_iff.mpr]
      intro c hc he
      exact h.1 (of_decide_eq_true he ▸ List.mem_map_of_mem hc)
    · have hne : f b ≠ f a := fun he => h.1 (he ▸ List.mem_map_of_mem ha)
      rw [List.filter_cons_of_neg (by simpa using hne), ih h.2 ha]

/-- Elements, each behind a label for the id that stands before it. -/
def behindLabels (label : String → Element) (ps : List (String × Element)) : List Element :=
  ps.flatMap fun p => [label p.1, p.2]

section

variable {label : String → Element} (hlabel : ∀ s, (label s).IsLabelFor s)
  {ps : List (String × Element)} (hinput : ∀ p ∈ ps, p.2.TakesInput p.1)

include hlabel hinput

theorem ids_behindLabels (rows : Nat) :
    (behindLabels label ps).flatMap (Element.ids rows) = ps.map Prod.fst := by
  induction ps with
  | nil => rfl
  | cons p ps ih =>
    rw [List.forall_mem_cons] at hinput
    have hids : [label p.1, p.2].flatMap (Element.ids rows) = [p.1] := by
      rw [List.flatMap_cons, List.flatMap_singleton, Element.ids_eq_nil (hlabel p.1).noId,
        Element.ids_of_text hinput.1.hasId, List.nil_append]
    rw [behindLabels, List.flatMap_cons, List.flatMap_append, hids, ← behindLabels, ih hinput.2]
    rfl

theorem filter_behindLabels (rows : Nat) (s : String) :
    (behindLabels label ps).filter (fun e => (e.ids rows).contains s) =
      (ps.filter fun p => p.1 = s).map Prod.snd := by
  induction ps with
  | nil => rfl
  | cons p ps ih =>
    rw [List.forall_mem_cons] at hinput
    rw [behindLabels, List.flatMap_cons, List.filter_append, ← behindLabels, ih hinput.2,
      List.filter_cons, List.filter_cons, List.filter_cons, List.filter_nil,
      Element.ids_eq_nil (hlabel p.1).noId, Element.ids_of_text hinput.1.hasId]
    by_cases hs : p.1 = s
    · simp [hs]
    · simp [hs, Ne.symm hs]

/-- **Elements behind labels of their own need different ids and no more.** -/
theorem labelled_behindLabels_iff (rows : Nat) :
    Labelled rows (behindLabels label ps) ↔ (ps.map Prod.fst).Nodup := by
  constructor
  · intro h
    rw [← ids_behindLabels hlabel hinput rows]
    exact h.nodup
  · intro hnodup
    refine ⟨(ids_behindLabels hlabel hinput rows).symm ▸ hnodup, fun l hl v hv => ?_⟩
    obtain ⟨p, hp, hl⟩ := List.mem_flatMap.mp hl
    rcases List.mem_cons.mp hl with rfl | hl
    · obtain rfl := Option.some.inj ((hlabel p.1).htmlFor.symm.trans hv)
      refine ⟨p.1, p.2, rfl, ?_, (hinput p hp).isControl⟩
      rw [filter_behindLabels hlabel hinput, filter_eq_singleton hnodup hp]
      rfl
    · obtain rfl := List.mem_singleton.mp hl
      rw [(hinput p hp).noLabel] at hv
      simp at hv

/-- Their ids are given as they are. -/
theorem exists_text_of_mem_behindLabels {e : Element} (he : e ∈ behindLabels label ps)
    {v : AttributeValue} (hv : e.get? "id" = some v) : ∃ s, v = .text s := by
  obtain ⟨p, hp, he⟩ := List.mem_flatMap.mp he
  rcases List.mem_cons.mp he with rfl | he
  · rw [(hlabel p.1).noId] at hv
    simp at hv
  · obtain rfl := List.mem_singleton.mp he
    exact ⟨p.1, Option.some.inj (hv.symm.trans (hinput p hp).hasId)⟩

end

end EntitySlice.Source
