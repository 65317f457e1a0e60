import EntitySlice.Proofs.NamingBlocks
import EntitySlice.Proofs.Source.Bindings

/-!
# Names around a plural

The names in a module are fixed, or have the plural of the entity between two fixed texts. Two such
names can be the same for one plural and different for another. A plural starts with a capital, and
for most pairs of names this is enough to tell them apart, whatever the plural is
(`NamePattern.name_ne_of_apart`). This can be computed, so that the names of a module are told
apart by looking at their patterns alone (`nodup_names`).
-/

namespace EntitySlice

open EntitySlice.Source EntitySlice.Text

/-! ## Plurals -/

/-- Whether a text starts with a capital. -/
def IsCapitalized (s : String) : Prop := s.toList.head?.any Char.isUpper = true

instance (s : String) : Decidable (IsCapitalized s) := inferInstanceAs (Decidable (_ = _))

/-- A resolved plural starts with a capital, since the folder starts with no underscore. -/
theorem isCapitalized_of_resolve {keys : NamingKeys} {block : Json.Members} {n : Naming}
    {ws : List Warning} (h : Naming.resolve keys block = .ok (n, ws)) : IsCapitalized n.plural := by
  obtain ⟨s, hs, hfolder, rfl, -⟩ := resolve_eq_ok_iff.mp h
  have hname := isEntityName_of_suppliedName hs.plural
  rw [isEntityName, Bool.and_eq_true, isIdentifier] at hname
  have hcase : ∀ n < 128, isIdentifierPart (Char.ofNat n) = true →
      isFolderStart (asciiLower (asciiUpper (Char.ofNat n))) = true →
      isIdentifierStart (Char.ofNat n) = true → (asciiUpper (Char.ofNat n)).isUpper = true := by
    decide
  cases hc : s.plural.toList with
  | nil => simp [hc, isIdentifierChars] at hname
  | cons c rest =>
    have hcap : s.naming.plural = String.ofList (asciiUpper c :: rest) := by
      rw [Supplied.naming, capitalizeAscii, hc]
    have hpart := isIdentifierPart_of_mem hname.1 (hc ▸ List.mem_cons_self)
    rw [hc, isIdentifierChars, Bool.and_eq_true] at hname
    rw [Naming.folder, Naming.pluralLower, smallLetters, isFolderName, String.toList_ofList, hcap,
      String.toList_ofList, List.map_cons, Bool.and_eq_true] at hfolder
    rw [IsCapitalized, hcap, String.toList_ofList]
    exact forall_isIdentifierPart
      (p := fun c => isFolderStart (asciiLower (asciiUpper c)) = true →
        isIdentifierStart c = true → (asciiUpper c).isUpper = true)
      hcase hpart hfolder.1 hname.1.1

/-! ## Patterns -/

/-- A name that is fixed, or has the plural of the entity between two texts. -/
inductive NamePattern
  | fixed (name : String)
  | around (before behind : String)
  deriving DecidableEq

namespace NamePattern

/-- The name for a plural. -/
def name (plural : String) : NamePattern → String
  | fixed s => s
  | around before behind => before ++ plural ++ behind

/-- What a text has between as many characters as two others have. -/
def between (before behind s : String) : String :=
  String.ofList <| (s.toList.drop before.toList.length).take
    (s.toList.length - before.toList.length - behind.toList.length)

/-- Whether a fixed name is none around a plural, unless the plural is one of `except`. -/
def IsNone (except : List String) (s before behind : String) : Prop :=
  let plural := between before behind s
  s = before ++ plural ++ behind → IsCapitalized plural → plural ∈ except

/-- Whether two names are different for every plural that is none of `except`. -/
def Apart (except : List String) : NamePattern → NamePattern → Prop
  | fixed s, fixed t => s ≠ t
  | fixed s, around before behind | around before behind, fixed s =>
    IsNone except s before behind
  | around b a, around b' a' =>
    (b ++ a).toList.length ≠ (b' ++ a').toList.length ∨
      (¬b.toList <+: b'.toList ∧ ¬b'.toList <+: b.toList) ∨ b = b' ∧ a ≠ a'

instance (except : List String) (s before behind : String) :
    Decidable (IsNone except s before behind) :=
  inferInstanceAs (Decidable (_ → _ → _))

instance (except : List String) : DecidableRel (Apart except)
  | fixed _, fixed _ => inferInstanceAs (Decidable (_ ≠ _))
  | fixed s, around b a => inferInstanceAs (Decidable (IsNone except s b a))
  | around b a, fixed s => inferInstanceAs (Decidable (IsNone except s b a))
  | around _ _, around _ _ => inferInstanceAs (Decidable (_ ∨ _))

theorem between_append (before plural behind : String) :
    between before behind (before ++ plural ++ behind) = plural := by
  have hlength : (before ++ plural ++ behind).toList.length - before.toList.length
      - behind.toList.length = plural.toList.length := by
    simp only [String.toList_append, List.length_append]
    omega
  rw [between, hlength, String.append_assoc, String.toList_append, List.drop_left,
    String.toList_append, List.take_left, String.ofList_toList]

/-- A name around a plural is no fixed name that is none around a plural. -/
theorem ne_of_isNone {except : List String} {s before behind plural : String}
    (h : IsNone except s before behind) (hp : IsCapitalized plural) (hnot : plural ∉ except) :
    s ≠ before ++ plural ++ behind := by
  intro he
  have hplural : between before behind s = plural := by rw [he, between_append]
  unfold IsNone at h
  rw [hplural] at h
  exact hnot (h he hp)

/-- **Names that are apart are different**, for all other plurals. -/
theorem name_ne_of_apart {except : List String} {x y : NamePattern} (h : Apart except x y)
    {plural : String} (hp : IsCapitalized plural) (hnot : plural ∉ except) :
    x.name plural ≠ y.name plural := by
  cases x with
  | fixed s =>
    cases y with
    | fixed t => exact h
    | around before behind => exact ne_of_isNone h hp hnot
  | around b a =>
    cases y with
    | fixed s => exact (ne_of_isNone h hp hnot).symm
    | around b' a' =>
      intro he
      have hchars := congrArg String.toList he
      simp only [name, String.toList_append, List.append_assoc] at hchars
      rcases h with hlength | ⟨hno, hno'⟩ | ⟨rfl, ha⟩
      · have hlengths := congrArg List.length hchars
        simp only [String.toList_append, List.length_append] at hlength hlengths
        omega
      · -- The beginnings of one text are comparable.
        have hb : b.toList <+: b'.toList ++ (plural.toList ++ a'.toList) :=
          hchars ▸ List.prefix_append _ _
        rcases List.prefix_or_prefix_of_prefix hb (List.prefix_append _ _) with hpre | hpre
        · exact hno hpre
        · exact hno' hpre
      · exact ha (String.toList_inj.mp (List.append_cancel_left (List.append_cancel_left hchars)))

/-- Whether the name is a word for every plural that is one. -/
def IsPlain : NamePattern → Prop
  | fixed s => IsWord s
  | around before behind => before.toList.all isIdentifierPart = true ∧
      behind.toList.all isIdentifierPart = true

instance : DecidablePred IsPlain
  | fixed s => inferInstanceAs (Decidable (IsWord s))
  | around _ _ => inferInstanceAs (Decidable (_ ∧ _))

theorem isWord_name {x : NamePattern} (h : x.IsPlain) {plural : String} (hp : IsWord plural) :
    IsWord (x.name plural) := by
  cases x with
  | fixed s => exact h
  | around before behind =>
    refine isWord_append ⟨by simp [hp.ne_nil], ?_⟩ (List.all_eq_true.mp h.2)
    rw [String.toList_append, List.forall_mem_append]
    exact ⟨List.all_eq_true.mp h.1, hp.parts⟩

end NamePattern

/-- **Names with patterns that are apart are pairwise different.** -/
theorem nodup_names {except : List String} {ps : List NamePattern}
    (h : ps.Pairwise (NamePattern.Apart except)) {plural : String} (hp : IsCapitalized plural)
    (hnot : plural ∉ except) : (ps.map (NamePattern.name plural)).Nodup :=
  List.pairwise_map.mpr (h.imp fun hxy => NamePattern.name_ne_of_apart hxy hp hnot)

end EntitySlice
