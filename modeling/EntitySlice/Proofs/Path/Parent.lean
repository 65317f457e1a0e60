import EntitySlice.Proofs.Path.Components
import Mathlib.Data.List.DropRight

/-!
# The directory that a path is in

The directory of a path is a path too: its text is cut off behind the last piece that means
something. `exists_parent?` says what is left of the components, and what the text of the directory
does not have.
-/

namespace EntitySlice.Path

/-! ## Pieces at the end that mean nothing -/

theorem trimPieces_eq (ps : List String) :
    trimPieces ps = ps.rdropWhile fun s => (component? s).isNone := rfl

theorem isPrefix_of_trimPieces (ps : List String) : trimPieces ps <+: ps :=
  List.rdropWhile_prefix _ ps

/-- What is cut off means nothing. -/
theorem filterMap_trimPieces (ps : List String) :
    (trimPieces ps).filterMap component? = ps.filterMap component? := by
  induction ps using List.reverseRecOn with
  | nil => rfl
  | append_singleton ps s ih =>
    rw [trimPieces_eq, List.rdropWhile_concat]
    split
    · next h =>
      rw [← trimPieces_eq, ih, List.filterMap_append]
      simp [Option.isNone_iff_eq_none.mp h]
    · rfl

/-- The last piece that stays means something. -/
theorem exists_component?_of_trimPieces {ps init : List String} {s : String}
    (h : trimPieces ps = init ++ [s]) : ∃ c, component? s = some c := by
  have hne : trimPieces ps ≠ [] := by simp [h]
  have hl := List.rdropWhile_last_not (fun s => (component? s).isNone) ps hne
  have hs : (ps.rdropWhile fun s => (component? s).isNone).getLast hne = s := by
    simp [← trimPieces_eq, h]
  rw [hs, Bool.not_eq_true, Option.isNone_eq_false_iff] at hl
  exact Option.isSome_iff_exists.mp hl

/-! ## The text of the directory -/

theorem components_startText (p : Path) : (⟨p.startText⟩ : Path).components = p.startOf := by
  unfold startText startOf
  split
  · rfl
  · split <;> rfl

/-- The first pieces that mean something start a path like all of them do. -/
theorem startOf_intercalate {p : Path} {init : List String} {s : String} {c : PathComponent}
    (hp : init ++ [s] <+: p.pieces) (hc : component? s = some c) :
    (⟨"/".intercalate (init ++ [s])⟩ : Path).startOf = p.startOf := by
  have hslash : ∀ x ∈ init ++ [s], '/' ∉ x.toList := by
    intro x hx hm
    exact (mem_of_mem_pieces (hp.subset hx) hm).2 rfl
  have hd := pieces_intercalate (by simp) hslash
  obtain ⟨more, hmore⟩ := hp
  refine startOf_congr ?_ ?_
  · rw [Bool.eq_iff_iff, isAbsolute_iff, isAbsolute_iff, hd, ← hmore]
    cases init with
    | nil =>
      -- The only piece means something, so it is not empty.
      have hs : s ≠ "" := by
        rintro rfl
        simp [component?] at hc
      simp [hs]
    | cons x init =>
      cases init <;> simp
  · rw [hd, ← hmore]
    cases init <;> simp

/-- A text that ends in a piece with a meaning does not end in a dot. -/
theorem endsInDot_of_pieces {p : Path} {init : List String} {s : String} {c : PathComponent}
    (hp : p.pieces = init ++ [s]) (hc : component? s = some c) : p.endsInDot = false := by
  have hs : s ≠ "" := by
    rintro rfl
    simp [component?] at hc
  have hdot : s ≠ "." := by
    rintro rfl
    simp [component?] at hc
  unfold endsInDot
  simp [hp, hs, hdot]

theorem mem_of_mem_intercalate {ps : List String} {c : Char} (hc : c ≠ '/')
    (h : c ∈ ("/".intercalate ps).toList) : ∃ s ∈ ps, c ∈ s.toList := by
  induction ps with
  | nil => simp at h
  | cons s rest ih =>
    cases rest with
    | nil => exact ⟨s, by simp, by simpa using h⟩
    | cons u rest =>
      rw [String.intercalate_cons_cons] at h
      simp only [String.toList_append, List.mem_append] at h
      rcases h with (h | h) | h
      · exact ⟨s, by simp, h⟩
      · exact absurd (by simpa using h) hc
      · obtain ⟨x, hx, hm⟩ := ih h
        exact ⟨x, List.mem_cons_of_mem _ hx, hm⟩

/-! ## The directory -/

/-- A path to a name has a last piece that means something, and other components before it. -/
theorem exists_trimPieces_eq {p : Path} {cs : List PathComponent} {n : String}
    (h : p.components = cs ++ [.name n]) :
    ∃ front s, trimPieces p.pieces = front ++ [s] ∧
      cs = p.startOf ++ front.filterMap component? := by
  rw [components_eq, ← filterMap_trimPieces] at h
  rcases List.eq_nil_or_concat' (trimPieces p.pieces) with hnil | ⟨front, s, hfront⟩
  · rw [hnil, List.filterMap_nil, List.append_nil] at h
    exact absurd (by rw [h]; simp) (startOf_not_name p n)
  · obtain ⟨c, hc⟩ := exists_component?_of_trimPieces hfront
    refine ⟨front, s, hfront, ?_⟩
    rw [hfront, List.filterMap_append, List.filterMap_cons, hc, List.filterMap_nil,
      ← List.append_assoc] at h
    exact (List.append_inj_left' h rfl).symm

theorem parent?_eq {p : Path} {cs : List PathComponent} {n : String}
    (h : p.components = cs ++ [.name n]) :
    p.parent? = match trimPieces (trimPieces p.pieces).dropLast with
      | [] => some ⟨p.startText⟩
      | pieces => some ⟨"/".intercalate pieces⟩ := by
  have hlast : p.components.getLast? = some (.name n) := by
    rw [h]
    simp
  unfold parent?
  exact hlast ▸ rfl

/-- The path of all that starts `p` and nothing more. -/
theorem parent_startText {p : Path} {cs : List PathComponent} (h : cs = p.startOf) :
    (⟨p.startText⟩ : Path).components = cs ∧
      (∀ init m, cs = init ++ [.name m] → (⟨p.startText⟩ : Path).endsInDot = false) ∧
      ∀ c ∈ p.startText.toList, c = '/' ∨ c = '.' ∨ c ∈ p.text.toList := by
  refine ⟨by rw [components_startText, h], ?_, ?_⟩
  · intro init m hm
    exact absurd (by rw [← h, hm]; simp) (startOf_not_name p m)
  · intro c hc
    unfold startText at hc
    split at hc
    · exact Or.inl (by simpa using hc)
    · split at hc
      · exact Or.inr (Or.inl (by simpa using hc))
      · simp at hc

/-- The path of the first pieces of `p`, up to one that means something. -/
theorem parent_intercalate {p : Path} {front init : List String} {u : String}
    (hpieces : front <+: p.pieces) (hinit : trimPieces front = init ++ [u]) :
    (⟨"/".intercalate (init ++ [u])⟩ : Path).components =
        p.startOf ++ front.filterMap component? ∧
      (⟨"/".intercalate (init ++ [u])⟩ : Path).endsInDot = false ∧
      ∀ c ∈ ("/".intercalate (init ++ [u])).toList, c = '/' ∨ c ∈ p.text.toList := by
  obtain ⟨d, hd⟩ := exists_component?_of_trimPieces hinit
  have hpre : init ++ [u] <+: p.pieces := by
    rw [← hinit]
    exact (isPrefix_of_trimPieces front).trans hpieces
  have hslash : ∀ x ∈ init ++ [u], '/' ∉ x.toList := by
    intro x hx hm
    exact (mem_of_mem_pieces (hpre.subset hx) hm).2 rfl
  have hint := pieces_intercalate (by simp) hslash
  refine ⟨?_, endsInDot_of_pieces hint hd, ?_⟩
  · rw [components_eq, startOf_intercalate hpre hd, hint, ← hinit, filterMap_trimPieces]
  · intro c hc
    by_cases hs : c = '/'
    · exact Or.inl hs
    · obtain ⟨x, hx, hm⟩ := mem_of_mem_intercalate hs hc
      exact Or.inr (mem_of_mem_pieces (hpre.subset hx) hm).1

/--
**The directory of a path has all components but the last name.** Its text does not end in a dot
if there is a name before the last one, and has no characters but slashes, dots and those of the
path.
-/
theorem exists_parent? {p : Path} {cs : List PathComponent} {n : String}
    (h : p.components = cs ++ [.name n]) :
    ∃ d, p.parent? = some d ∧ d.components = cs ∧
      (∀ init m, cs = init ++ [.name m] → d.endsInDot = false) ∧
      ∀ c ∈ d.text.toList, c = '/' ∨ c = '.' ∨ c ∈ p.text.toList := by
  obtain ⟨front, s, hfront, hcs⟩ := exists_trimPieces_eq h
  have hparent := parent?_eq h
  rw [hfront, List.dropLast_concat] at hparent
  have hpieces : front <+: p.pieces :=
    (List.prefix_append front [s]).trans (hfront ▸ isPrefix_of_trimPieces p.pieces)
  rcases List.eq_nil_or_concat' (trimPieces front) with hnil | ⟨init, u, hinit⟩
  · have hstart : cs = p.startOf := by
      rw [hcs, ← filterMap_trimPieces, hnil, List.filterMap_nil, List.append_nil]
    rw [hnil] at hparent
    exact ⟨_, hparent, parent_startText hstart⟩
  · obtain ⟨hcomp, hdot, hmem⟩ := parent_intercalate hpieces hinit
    refine ⟨⟨"/".intercalate (init ++ [u])⟩, ?_, by rw [hcomp, hcs], fun _ _ _ => hdot, ?_⟩
    · rw [hparent, hinit]
      cases init <;> rfl
    · intro c hc
      rcases hmem c hc with hs | hm
      · exact Or.inl hs
      · exact Or.inr (Or.inr hm)

end EntitySlice.Path
