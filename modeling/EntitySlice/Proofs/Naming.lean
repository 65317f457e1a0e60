import EntitySlice.Proofs.Planning
import EntitySlice.Proofs.Source.TextLines

/-!
# The names of an entity

The two names that a naming block gives are identifiers, and all others are made from them. So every
name of an entity is on one line (`Naming.OfParts.oneLine_schemaConst` and what stands before it).
-/

namespace EntitySlice

open EntitySlice.Source EntitySlice.Text

/-! ## Identifiers -/

/-- The characters of identifiers are ASCII characters. -/
theorem toNat_lt_of_isIdentifierPart {c : Char} (h : isIdentifierPart c = true) :
    c.toNat < 128 := by
  have hkinds : (((c.isUpper = true ∨ c.isLower = true) ∨ c.isDigit = true) ∨ c = '_') ∨
      c = '$' := by
    rw [isIdentifierPart, Bool.or_eq_true, Bool.or_eq_true, decide_eq_true_eq,
      decide_eq_true_eq] at h
    refine h.imp_left (Or.imp_left fun halnum => ?_)
    have halpha : c.isAlphanum = (c.isUpper || c.isLower || c.isDigit) := rfl
    rwa [halpha, Bool.or_eq_true, Bool.or_eq_true] at halnum
  have hrange {high : UInt32} (hc : c.val ≤ high) (hhigh : high.toNat < 128) : c.toNat < 128 :=
    Nat.lt_of_le_of_lt (UInt32.le_iff_toNat_le.mp hc) hhigh
  rcases hkinds with (((hupper | hlower) | hdigit) | rfl) | rfl
  · exact hrange (of_decide_eq_true hupper).2 (by decide)
  · exact hrange (of_decide_eq_true (Bool.and_eq_true_iff.mp hlower).2) (by decide)
  · exact hrange (of_decide_eq_true (Bool.and_eq_true_iff.mp hdigit).2) (by decide)
  · decide
  · decide

/-- A property of all characters of identifiers can be checked one by one. -/
theorem forall_isIdentifierPart {p : Char → Prop}
    (h : ∀ n < 128, isIdentifierPart (Char.ofNat n) = true → p (Char.ofNat n)) {c : Char}
    (hc : isIdentifierPart c = true) : p c := by
  have hself := Char.ofNat_toNat c
  exact hself ▸ h c.toNat (toNat_lt_of_isIdentifierPart hc) (hself.symm ▸ hc)

/-- The capital of a character of an identifier can stand where the character can. -/
theorem isIdentifierStart_asciiUpper {c : Char} (h : isIdentifierPart c = true) :
    isIdentifierStart (asciiUpper c) = isIdentifierStart c :=
  forall_isIdentifierPart (p := fun c => isIdentifierStart (asciiUpper c) = isIdentifierStart c)
    (by decide) h

/-- The cases of a character of an identifier have no line feed. -/
theorem newline_notMem_cases {c : Char} (h : isIdentifierPart c = true) :
    '\n' ∉ upperChar c ∧ '\n' ∉ lowerChar c ∧ c ≠ 'Σ' :=
  forall_isIdentifierPart (p := fun c => '\n' ∉ upperChar c ∧ '\n' ∉ lowerChar c ∧ c ≠ 'Σ')
    (by decide) h

/-! ## Words -/

/-- The characters of words come from the clusters. -/
theorem mem_of_mem_wordsAfter {clusters : List (List Char × LetterKind)} {current : List Char}
    {last? : Option LetterKind} {w : List Char} (hw : w ∈ wordsAfter current last? clusters)
    {c : Char} (hc : c ∈ w) : c ∈ current ∨ ∃ g ∈ clusters, c ∈ g.1 := by
  induction clusters generalizing current last? with
  | nil =>
    rw [wordsAfter, List.mem_singleton] at hw
    exact .inl (by simpa [hw] using hc)
  | cons g clusters ih =>
    obtain ⟨g, kind⟩ := g
    -- A word that ends before the cluster is the one begun before; all others come after it.
    have hlater {current' : List Char} (hsub : ∀ d ∈ current', d ∈ current ∨ d ∈ g)
        (hw : w ∈ wordsAfter current' (some kind) clusters) :
        c ∈ current ∨ ∃ g' ∈ (g, kind) :: clusters, c ∈ g'.1 := by
      rcases ih hw with h | ⟨g', hg', h⟩
      · exact (hsub c h).imp_right fun h => ⟨_, List.mem_cons_self, h⟩
      · exact .inr ⟨g', List.mem_cons_of_mem _ hg', h⟩
    have hended (hw : w = current.reverse) :
        c ∈ current ∨ ∃ g' ∈ (g, kind) :: clusters, c ∈ g'.1 :=
      .inl (by simpa [hw] using hc)
    rw [wordsAfter] at hw
    split at hw
    · rcases List.mem_cons.mp hw with hw | hw
      · exact hended hw
      · exact hlater (by simp) hw
    · split at hw
      · rcases List.mem_cons.mp hw with hw | hw
        · exact hended hw
        · exact hlater (fun d hd => .inr (List.mem_reverse.mp hd)) hw
      · exact hlater (by simp [or_comm]) hw

/-- The characters of the words of a name are characters of the name. -/
theorem mem_of_mem_words {cs w : List Char} (hw : w ∈ words cs) {c : Char} (hc : c ∈ w) :
    c ∈ cs := by
  rcases mem_of_mem_wordsAfter (List.mem_filter.mp hw).1 hc with h | ⟨g, hg, h⟩
  · exact absurd h List.not_mem_nil
  · obtain ⟨g', hg', rfl⟩ := List.mem_map.mp hg
    have hflat := List.mem_flatten.mpr ⟨g', hg', h⟩
    rwa [flatten_clusters] at hflat

section

variable {cs : List Char} (h : ∀ c ∈ cs, isIdentifierPart c = true)

include h

theorem newline_notMem_lowerChars : '\n' ∉ lowerChars cs := by
  have hsigma : 'Σ' ∉ cs := fun hs => (newline_notMem_cases (h _ hs)).2.2 rfl
  rw [lowerChars, lowerAfter_eq_lowerEach _ hsigma, lowerEach]
  intro hn
  obtain ⟨c, hc, hn⟩ := List.mem_flatMap.mp hn
  exact (newline_notMem_cases (h c hc)).2.1 hn

theorem newline_notMem_capitalizeWord : '\n' ∉ capitalizeWord cs := by
  cases cs with
  | nil => simp [capitalizeWord]
  | cons c rest =>
    rw [List.forall_mem_cons] at h
    rw [capitalizeWord, List.mem_append, not_or]
    exact ⟨(newline_notMem_cases h.1).1, newline_notMem_lowerChars h.2⟩

/-- The camel-case form of an identifier has no line feed. -/
theorem newline_notMem_camelChars : '\n' ∉ camelChars cs := by
  have hwords : ∀ w ∈ words cs, ∀ c ∈ w, isIdentifierPart c = true := fun w hw c hc =>
    h c (mem_of_mem_words hw hc)
  unfold camelChars
  split
  · exact List.not_mem_nil
  · next w ws hw =>
    rw [hw, List.forall_mem_cons] at hwords
    rw [List.mem_append, List.mem_flatMap, not_or]
    refine ⟨newline_notMem_lowerChars hwords.1, ?_⟩
    rintro ⟨w', hw', hn⟩
    exact newline_notMem_capitalizeWord (hwords.2 w' hw') hn

end

/-! ## Resolved names -/

/-- Whether the names of an entity have no characters but those of identifiers. -/
structure Naming.OfParts (n : Naming) : Prop where
  plural : ∀ c ∈ n.plural.toList, isIdentifierPart c = true
  singular : ∀ c ∈ n.singular.toList, isIdentifierPart c = true

/-- A supplied name is an identifier, and stays one with a capital. -/
theorem isIdentifier_of_suppliedName {block : Json.Members} {key name : String}
    (h : suppliedName block key = .ok name) : isIdentifier (capitalizeAscii name) = true := by
  have hname : isEntityName name = true := by
    unfold suppliedName at h
    split at h
    · next s hs =>
      split at h
      · next hs => exact Except.ok.inj h ▸ hs
      · simp at h
    · simp at h
  rw [isEntityName, Bool.and_eq_true] at hname
  have hparts : ∀ c ∈ name.toList, isIdentifierPart c = true := fun c hc =>
    isIdentifierPart_of_mem hname.1 hc
  have hchars := hname.1
  unfold capitalizeAscii isIdentifier
  rw [isIdentifier] at hchars
  split
  · next hcs => simp [hcs, isIdentifierChars] at hchars
  · next c rest hcs =>
    rw [hcs, List.forall_mem_cons] at hparts
    rw [hcs, isIdentifierChars, Bool.and_eq_true] at hchars
    rw [String.toList_ofList, isIdentifierChars, Bool.and_eq_true]
    exact ⟨(isIdentifierStart_asciiUpper hparts.1).trans hchars.1, hchars.2⟩

/-- **Resolved names are identifiers.** -/
theorem isIdentifier_of_resolve {keys : NamingKeys} {block : Json.Members} {n : Naming}
    {ws : List Warning} (h : Naming.resolve keys block = .ok (n, ws)) :
    isIdentifier n.plural = true ∧ isIdentifier n.singular = true := by
  unfold Naming.resolve at h
  obtain ⟨plural, hplural, h⟩ := exists_of_bind_eq_ok h
  obtain ⟨pluralLower, -, h⟩ := exists_of_bind_eq_ok h
  obtain ⟨singular, hsingular, h⟩ := exists_of_bind_eq_ok h
  obtain ⟨singularLower?, -, h⟩ := exists_of_bind_eq_ok h
  dsimp only at h
  split at h
  · obtain ⟨flag, -, h⟩ := exists_of_bind_eq_ok h
    obtain ⟨rfl, -⟩ := Prod.mk.inj (Except.ok.inj h)
    exact ⟨isIdentifier_of_suppliedName hplural, isIdentifier_of_suppliedName hsingular⟩
  · obtain ⟨_, h, -⟩ := exists_of_bind_eq_ok h
    simp [throw, throwThe, MonadExceptOf.throw] at h

theorem ofParts_of_resolve {keys : NamingKeys} {block : Json.Members} {n : Naming}
    {ws : List Warning} (h : Naming.resolve keys block = .ok (n, ws)) : n.OfParts where
  plural := fun _ hc => isIdentifierPart_of_mem (isIdentifier_of_resolve h).1 hc
  singular := fun _ hc => isIdentifierPart_of_mem (isIdentifier_of_resolve h).2 hc

namespace Naming.OfParts

variable {n : Naming} (h : n.OfParts)

include h

theorem oneLine_plural : OneLine n.plural := .of_isIdentifierPart h.plural

theorem oneLine_interfaceName : OneLine n.interfaceName :=
  OneLine.append (by decide) h.oneLine_plural

theorem oneLine_defaultConst : OneLine n.defaultConst :=
  OneLine.append (by decide) h.oneLine_plural

theorem oneLine_storeHook : OneLine n.storeHook :=
  (OneLine.append (by decide) h.oneLine_plural).append (by decide)

theorem oneLine_pluralLower : OneLine n.pluralLower := by
  rw [OneLine, pluralLower, smallLetters, String.toList_ofList, List.mem_map]
  rintro ⟨c, hc, hlower⟩
  exact forall_isIdentifierPart (p := fun c => asciiLower c ≠ '\n') (by decide) (h.plural c hc)
    hlower

theorem oneLine_validateFn : OneLine n.validateFn :=
  OneLine.append (by decide) h.oneLine_plural

theorem oneLine_pluralCamel : OneLine n.pluralCamel := by
  rw [OneLine, pluralCamel, camelCase, String.toList_ofList]
  exact newline_notMem_camelChars h.plural

theorem oneLine_schemaConst : OneLine n.schemaConst := by
  refine OneLine.append ?_ (by decide)
  rw [OneLine, singularCamel, camelCase, String.toList_ofList]
  exact newline_notMem_camelChars h.singular

end Naming.OfParts

end EntitySlice
