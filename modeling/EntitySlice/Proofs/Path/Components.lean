import EntitySlice.Path

/-!
# The components of a path

What a path means, said of its text: a slash divides the pieces (`splitAfter_append_slash`), so the
pieces of texts with slashes between them are these texts again (`pieces_intercalate`).

* `components_of_isName` — a name alone is its own only component
* `components_join` — a plain path seen from `p` goes through `p` and then through its own names
-/

namespace EntitySlice

/-- Whether a text is one name of a path. -/
def IsName (s : String) : Prop :=
  s ≠ "" ∧ s ≠ "." ∧ s ≠ ".." ∧ '/' ∉ s.toList

instance (s : String) : Decidable (IsName s) := inferInstanceAs (Decidable (_ ∧ _))

/-- The characters of a text that is put together. -/
theorem toList_append_eq {s t : String} {cs ds : List Char} (ht : t.toList = ds)
    (hs : s.toList = cs) : (s ++ t).toList = cs ++ ds := by
  rw [String.toList_append, hs, ht]

namespace Path

/-! ## Pieces -/

theorem splitAfter_ne_nil (current cs : List Char) : splitAfter current cs ≠ [] := by
  induction cs generalizing current with
  | nil => simp [splitAfter]
  | cons c rest ih =>
    rw [splitAfter]
    split
    · simp
    · exact ih _

/-- A slash ends a piece, whatever stands around it. -/
theorem splitAfter_append_slash (current l r : List Char) :
    splitAfter current (l ++ '/' :: r) = splitAfter current l ++ splitAfter [] r := by
  induction l generalizing current with
  | nil => simp [splitAfter]
  | cons c rest ih =>
    rw [List.cons_append, splitAfter, splitAfter, ih, ih]
    split <;> rfl

theorem splitAfter_of_not_mem {l : List Char} (h : '/' ∉ l) (current : List Char) :
    splitAfter current l = [current.reverse ++ l] := by
  induction l generalizing current with
  | nil => simp [splitAfter]
  | cons c rest ih =>
    rw [List.mem_cons, not_or] at h
    rw [splitAfter, if_neg (Ne.symm h.1), ih h.2]
    simp

/-- A piece of which a character has been read is not empty. -/
theorem ne_nil_of_splitAfter {l current x : List Char} {xs : List (List Char)}
    (hc : current ≠ []) (h : splitAfter current l = x :: xs) : x ≠ [] := by
  induction l generalizing current with
  | nil =>
    rw [splitAfter, List.cons.injEq] at h
    rw [← h.1]
    simpa using hc
  | cons d l ih =>
    rw [splitAfter] at h
    split at h
    · rw [List.cons.injEq] at h
      rw [← h.1]
      simpa using hc
    · exact ih (by simp) h

/-- The characters of the pieces are those of the text, without the slashes. -/
theorem mem_of_mem_splitAfter {current cs piece : List Char} {c : Char}
    (hp : piece ∈ splitAfter current cs) (hc : c ∈ piece) :
    c ∈ current ∨ c ∈ cs ∧ c ≠ '/' := by
  induction cs generalizing current with
  | nil =>
    rw [splitAfter, List.mem_singleton] at hp
    subst hp
    exact Or.inl (List.mem_reverse.mp hc)
  | cons d rest ih =>
    rw [splitAfter] at hp
    split at hp
    · rcases List.mem_cons.mp hp with rfl | hp
      · exact Or.inl (List.mem_reverse.mp hc)
      · rcases ih hp with h | ⟨h, hne⟩
        · exact absurd h List.not_mem_nil
        · exact Or.inr ⟨List.mem_cons_of_mem _ h, hne⟩
    · next hd =>
      rcases ih hp with h | ⟨h, hne⟩
      · rcases List.mem_cons.mp h with rfl | h
        · exact Or.inr ⟨List.mem_cons_self, hd⟩
        · exact Or.inl h
      · exact Or.inr ⟨List.mem_cons_of_mem _ h, hne⟩

theorem pieces_ne_nil (p : Path) : p.pieces ≠ [] := by
  simp [pieces, splitAfter_ne_nil]

theorem mem_of_mem_pieces {p : Path} {piece : String} {c : Char} (hp : piece ∈ p.pieces)
    (hc : c ∈ piece.toList) : c ∈ p.text.toList ∧ c ≠ '/' := by
  obtain ⟨l, hl, rfl⟩ := List.mem_map.mp hp
  rw [String.toList_ofList] at hc
  rcases mem_of_mem_splitAfter hl hc with h | h
  · exact absurd h List.not_mem_nil
  · exact h

theorem pieces_of_not_mem {s : String} (h : '/' ∉ s.toList) : (⟨s⟩ : Path).pieces = [s] := by
  simp [pieces, splitAfter_of_not_mem h]

/-- The pieces of two texts with a slash between them are the pieces of both. -/
theorem pieces_append_slash (s u : String) :
    (⟨s ++ "/" ++ u⟩ : Path).pieces = (⟨s⟩ : Path).pieces ++ (⟨u⟩ : Path).pieces := by
  have h : (s ++ "/" ++ u).toList = s.toList ++ '/' :: u.toList := by
    simp [String.toList_append]
  simp only [pieces, h, splitAfter_append_slash, List.map_append]

/-- **Texts without slashes are the pieces of what they make with slashes between them.** -/
theorem pieces_intercalate {ps : List String} (hne : ps ≠ []) (h : ∀ s ∈ ps, '/' ∉ s.toList) :
    (⟨"/".intercalate ps⟩ : Path).pieces = ps := by
  induction ps with
  | nil => exact absurd rfl hne
  | cons s rest ih =>
    cases rest with
    | nil => rw [String.intercalate_singleton, pieces_of_not_mem (h s (by simp))]
    | cons u rest =>
      rw [String.intercalate_cons_cons, pieces_append_slash, pieces_of_not_mem (h s (by simp)),
        ih (by simp) (fun x hx => h x (List.mem_cons_of_mem _ hx))]
      rfl

/-- A path is absolute when an empty piece stands before the others. -/
theorem isAbsolute_iff (p : Path) : p.isAbsolute = true ↔ ∃ s rest, p.pieces = "" :: s :: rest := by
  unfold isAbsolute pieces
  cases h : p.text.toList with
  | nil => simp [splitAfter]
  | cons c rest =>
    simp only [List.head?_cons, Option.some.injEq, decide_eq_true_eq]
    constructor
    · intro hc
      rw [splitAfter, if_pos hc]
      obtain ⟨s, more, hs⟩ := List.exists_cons_of_ne_nil (splitAfter_ne_nil [] rest)
      exact ⟨String.ofList s, more.map String.ofList, by simp [hs]⟩
    · rintro ⟨s, more, hs⟩
      by_cases hc : c = '/'
      · exact hc
      · obtain ⟨x, xs, hx⟩ := List.exists_cons_of_ne_nil (splitAfter_ne_nil [c] rest)
        rw [splitAfter, if_neg hc, hx, List.map_cons, List.cons.injEq] at hs
        exact absurd (by simpa using hs.1) (ne_nil_of_splitAfter (by simp) hx)

/-! ## Components -/

/-- The component before the pieces: the root, or the dot that starts the path. -/
def startOf (p : Path) : List PathComponent :=
  if p.isAbsolute then [.root] else if p.pieces.head? = some "." then [.here] else []

theorem components_eq (p : Path) :
    p.components = p.startOf ++ p.pieces.filterMap component? := rfl

/-- What a path with these characters means. -/
def charComponents (cs : List Char) : List PathComponent :=
  let pieces := (splitAfter [] cs).map String.ofList
  (if cs.head? = some '/' then [.root] else if pieces.head? = some "." then [.here] else [])
    ++ pieces.filterMap component?

theorem components_of_chars {p : Path} {cs : List Char} (h : p.text.toList = cs) :
    p.components = charComponents cs := by
  subst h
  simp [components, charComponents, isAbsolute, pieces]

/-- What starts a path is said by its first pieces. -/
theorem startOf_congr {p q : Path} (ha : p.isAbsolute = q.isAbsolute)
    (hh : p.pieces.head? = q.pieces.head?) : p.startOf = q.startOf := by
  unfold startOf
  rw [ha, hh]

theorem startOf_not_name (p : Path) (n : String) : PathComponent.name n ∉ p.startOf := by
  unfold startOf
  split
  · simp
  · split <;> simp

theorem component?_of_isName {s : String} (h : IsName s) : component? s = some (.name s) := by
  obtain ⟨h1, h2, h3, -⟩ := h
  simp [component?, h1, h2, h3]

/-- A name alone is its own only component. -/
theorem components_of_isName {s : String} (h : IsName s) : (⟨s⟩ : Path).components = [.name s] := by
  have hp : (⟨s⟩ : Path).pieces = [s] := pieces_of_not_mem h.2.2.2
  have ha : (⟨s⟩ : Path).isAbsolute = false := by
    rw [Bool.eq_false_iff, ne_eq, isAbsolute_iff, hp]
    simp
  rw [components_eq, startOf, ha, hp]
  simp [component?_of_isName h, h.2.1]

/-! ## Plain paths -/

/-- A plain path is a list of names. -/
theorem isPlain_iff (p : Path) :
    p.isPlain = true ↔ ∃ names : List String, p.components = names.map .name := by
  unfold isPlain
  constructor
  · intro h
    generalize p.components = cs at h
    induction cs with
    | nil => exact ⟨[], rfl⟩
    | cons c rest ih =>
      rw [List.all_cons, Bool.and_eq_true] at h
      obtain ⟨names, hn⟩ := ih h.2
      cases c with
      | name n => exact ⟨n :: names, by rw [hn, List.map_cons]⟩
      | _ => simp at h
  · rintro ⟨names, hn⟩
    rw [hn]
    simp

theorem startOf_of_isPlain {p : Path} (h : p.isPlain = true) : p.startOf = [] := by
  obtain ⟨names, hn⟩ := (isPlain_iff p).mp h
  rw [components_eq] at hn
  cases hs : p.startOf with
  | nil => rfl
  | cons c rest =>
    cases names with
    | nil => simp [hs] at hn
    | cons n names =>
      have hc : c = .name n := by
        rw [hs, List.cons_append, List.map_cons, List.cons.injEq] at hn
        exact hn.1
      exact absurd (by rw [hs, hc]; simp) (startOf_not_name p n)

theorem not_isAbsolute_of_isPlain {p : Path} (h : p.isPlain = true) : p.isAbsolute = false := by
  have hs := startOf_of_isPlain h
  unfold startOf at hs
  split at hs
  · simp at hs
  · next ha => simpa using ha

/-! ## Joined paths -/

/--
The pieces of a joined path are those of `p`, perhaps without an empty one at the end, and then
those of `q`.
-/
theorem exists_pieces_join {p q : Path} (hq : q.isAbsolute = false) (hp : p.text ≠ "") :
    ∃ before after, before ≠ [] ∧ p.pieces = before ++ after ∧
      after.filterMap component? = [] ∧ (p.join q).pieces = before ++ q.pieces := by
  unfold join
  rw [hq, if_neg (by simp)]
  split
  · exact ⟨p.pieces, [], pieces_ne_nil p, by simp, rfl, pieces_append_slash _ _⟩
  · next h =>
    -- The text of `p` ends in a slash, behind which there is an empty piece.
    have hne : p.text.toList ≠ [] := by
      intro h0
      exact hp (String.toList_eq_nil_iff.mp h0)
    obtain ⟨l, c, hl⟩ : ∃ l c, p.text.toList = l ++ [c] :=
      ⟨_, _, (List.dropLast_concat_getLast hne).symm⟩
    have hc : c = '/' := by simpa [hl] using h
    subst hc
    refine ⟨(splitAfter [] l).map String.ofList, [""], ?_, ?_, rfl, ?_⟩
    · simp [splitAfter_ne_nil]
    · simp [pieces, hl, splitAfter_append_slash, splitAfter]
    · simp [pieces, hl, splitAfter_append_slash]

theorem isAbsolute_join {p q : Path} (hq : q.isAbsolute = false) (hp : p.text ≠ "") :
    (p.join q).isAbsolute = p.isAbsolute := by
  have hne : p.text.toList ≠ [] := fun h0 => hp (String.toList_eq_nil_iff.mp h0)
  obtain ⟨c, rest, hc⟩ := List.exists_cons_of_ne_nil hne
  unfold join
  rw [hq, if_neg (by simp)]
  split <;> simp [isAbsolute, hc]

/-- **A plain path seen from `p` goes through `p` and then through its own names.** -/
theorem components_join (p : Path) {q : Path} (hq : q.isPlain = true) :
    (p.join q).components = p.components ++ q.components := by
  have ha : q.isAbsolute = false := not_isAbsolute_of_isPlain hq
  rw [components_eq q, startOf_of_isPlain hq, List.nil_append]
  by_cases hp : p.text = ""
  · have hj : p.join q = q := by
      unfold join
      rw [ha, if_neg (by simp), hp]
      simp
    have h0 : p.components = [] := by
      rw [show p = ⟨""⟩ from by cases p; simpa using hp]
      rfl
    rw [hj, h0, components_eq q, startOf_of_isPlain hq]
  · obtain ⟨before, after, hne, hpieces, hafter, hjoin⟩ := exists_pieces_join ha hp
    have hs : (p.join q).startOf = p.startOf := by
      refine startOf_congr (isAbsolute_join ha hp) ?_
      obtain ⟨x, xs, hx⟩ := List.exists_cons_of_ne_nil hne
      rw [hjoin, hpieces, hx]
      rfl
    rw [components_eq, components_eq p, hs, hjoin, hpieces, List.filterMap_append,
      List.filterMap_append, hafter, List.append_nil, List.append_assoc]

/-- The last piece of a joined path is that of the path behind. -/
theorem getLast?_pieces_join (p : Path) {q : Path} (hq : q.isPlain = true) :
    (p.join q).pieces.getLast? = q.pieces.getLast? := by
  have ha : q.isAbsolute = false := not_isAbsolute_of_isPlain hq
  by_cases hp : p.text = ""
  · have hj : p.join q = q := by
      unfold join
      rw [ha, if_neg (by simp), hp]
      simp
    rw [hj]
  · obtain ⟨before, after, -, -, -, hjoin⟩ := exists_pieces_join ha hp
    rw [hjoin, List.getLast?_append, List.getLast?_eq_some_getLast (pieces_ne_nil q)]
    rfl

/-- A joined path asks for a directory when the path behind does. -/
theorem asksForDirectory_join (p : Path) {q : Path} (hq : q.isPlain = true) :
    (p.join q).asksForDirectory = q.asksForDirectory := by
  unfold asksForDirectory
  rw [getLast?_pieces_join p hq]

/-! ## Paths below others -/

theorem isBelow_iff (p base : Path) :
    p.isBelow base = true ↔ base.components <+: p.components :=
  List.isPrefixOf_iff_prefix

/-- Whether neither path is the other or lies below it. -/
def Apart (p q : Path) : Prop := p.isBelow q = false ∧ q.isBelow p = false

theorem apart_iff (p q : Path) :
    p.Apart q ↔ ¬q.components <+: p.components ∧ ¬p.components <+: q.components := by
  unfold Apart
  rw [← Bool.not_eq_true, ← Bool.not_eq_true, isBelow_iff, isBelow_iff]

end Path

end EntitySlice
