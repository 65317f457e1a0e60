import EntitySlice.Proofs.NewRecords

/-!
# Lines for checks

The last block in the shape of the records has the checks of all fields, one after the other. It
stands between its first and its last line in the text of the module (`linesBetween_checks`), since
each check is on one line whatever the name and the options of its field are.
-/

namespace EntitySlice.Slice

open EntitySlice.Source

/-! ## Checks as they are written -/

/-- The line that says something under a condition. -/
def complaintLine (condition message : String) : String :=
  "  if (" ++ condition ++ ") errors.push(" ++ literal message ++ ");"

/-- The lines with the checks of the field of an object, as they stand in a function. -/
def checkTextLines (object : String) (f : Field) : List String :=
  (nest (checkLines object f)).map Line.text

/-- The checks are written with their conditions. -/
theorem checkTextLines_eq (object : String) (f : Field) :
    checkTextLines object f =
      (checks f).map fun c => complaintLine (c.condition (member object f.name)) c.message := by
  have htext (c : Check) : Line.text ⟨2, .code (c.statement (member object f.name))⟩ =
      complaintLine (c.condition (member object f.name)) c.message := by
    refine String.toList_inj.mp ?_
    simp [text_indented, Check.statement, complaintLine, List.replicate]
  simp [checkTextLines, checkLines, nest, indentBy, Line.code, htext]

/-- The lines of the function that checks a record. -/
theorem text_checkTexts (e : Entity) : ((checkTexts e).map fun t => Line.text ⟨2, .code t⟩) =
    "  const errors: string[] = [];" ::
      (e.fields.flatMap (checkTextLines "item") ++ ["  return errors;"]) := by
  have hfirst : Line.text ⟨2, .code "const errors: string[] = [];"⟩ =
      "  const errors: string[] = [];" := by
    decide
  have hlast : Line.text ⟨2, .code "return errors;"⟩ = "  return errors;" := by decide
  have hfield (f : Field) : ((checkStatements f).map fun t => Line.text ⟨2, .code t⟩) =
      checkTextLines "item" f := by
    simp [checkStatements, checkTextLines, checkLines, nest, indentBy, Line.code, Check.statement,
      Check.condition_eq]
  simp [checkTexts, List.map_flatMap, hfirst, hlast, hfield]

/-! ## The checks there are -/

/-- The patterns of all checks. -/
def checkPatterns : List String := [emailPattern, urlPattern, phonePattern, timePattern]

/-- The checks that a field can have. -/
inductive KnownCheck (f : Field) : Check → Prop
  | missing (k : ValueKind) (message : String) : KnownCheck f ⟨false, missingTest k, message⟩
  | integer (message : String) : KnownCheck f ⟨false, .notInteger, message⟩
  | number (message : String) : KnownCheck f ⟨false, .notNumber, message⟩
  | text {pattern : String} (h : pattern ∈ checkPatterns) (message : String) :
    KnownCheck f ⟨true, .mismatch pattern, message⟩
  | ends (message : String) : KnownCheck f ⟨true, .endMismatch timePattern, message⟩
  | date (message : String) : KnownCheck f ⟨true, .notDate, message⟩
  | dates (message : String) : KnownCheck f ⟨true, .notDates, message⟩
  | choice {options : List String} (h : f.classification.validator.options? = some options)
    (message : String) : KnownCheck f ⟨true, .notOneOf options, message⟩

/-- **There are no other checks.** This is the only place where the validators are told apart. -/
theorem knownCheck_of_mem {f : Field} {c : Check} (h : c ∈ checks f) : KnownCheck f c := by
  rcases List.mem_append.mp h with hrequired | hvalidator
  · split at hrequired
    · obtain rfl := List.mem_singleton.mp hrequired
      exact .missing _ _
    · exact absurd hrequired List.not_mem_nil
  · have hcheck : validatorCheck? f = some c := Option.mem_toList.mp hvalidator
    unfold validatorCheck? at hcheck
    cases hv : f.classification.validator with
    | none | nonEmptyList => simp [hv] at hcheck
    | email =>
      obtain rfl := Option.some.inj (hv ▸ hcheck)
      exact .text (.head _) _
    | url =>
      obtain rfl := Option.some.inj (hv ▸ hcheck)
      exact .text (.tail _ (.head _)) _
    | phone =>
      obtain rfl := Option.some.inj (hv ▸ hcheck)
      exact .text (.tail _ (.tail _ (.head _))) _
    | integer =>
      obtain rfl := Option.some.inj (hv ▸ hcheck)
      exact .integer _
    | number =>
      obtain rfl := Option.some.inj (hv ▸ hcheck)
      exact .number _
    | date =>
      obtain rfl := Option.some.inj (hv ▸ hcheck)
      rw [validityCheck]
      split
      · exact .dates _
      · exact .date _
    | time =>
      obtain rfl := Option.some.inj (hv ▸ hcheck)
      rw [validityCheck]
      split
      · exact .ends _
      · exact .text (.tail _ (.tail _ (.tail _ (.head _)))) _
    | oneOf options =>
      obtain rfl := Option.some.inj (hv ▸ hcheck)
      exact .choice (by rw [hv]; rfl) _

/-! ## One line each -/

theorem KnownCheck.oneLine_source {f : Field} {c : Check} (h : KnownCheck f c) {v : String}
    (hv : OneLine v) : OneLine (c.test.source v) := by
  have hpatterns : ∀ pattern ∈ checkPatterns, OneLine pattern := by decide
  unfold Test.source
  cases h with
  | missing k =>
    cases k
    all_goals
      simp only [missingTest, oneLine_append, hv, and_true]
      decide
  | text hpattern =>
    simp only [oneLine_append, hpatterns _ hpattern, hv, and_true]
    decide
  | ends =>
    have htime : OneLine timePattern := by decide
    simp only [oneLine_append, htime, hv, and_true]
    decide
  | choice =>
    simp only [oneLine_append, oneLine_literalList, hv, and_true]
    decide
  | _ =>
    simp only [oneLine_append, hv, and_true]
    decide

/-- **A check is on one line.** -/
theorem oneLine_checkStatements (f : Field) : ∀ t ∈ checkStatements f, OneLine t := by
  rw [checkStatements, List.forall_mem_map]
  intro c hc
  have hv : OneLine (member "item" f.name) := OneLine.member (by decide) f.name
  have htest := (knownCheck_of_mem hc).oneLine_source hv
  have hcondition : OneLine (c.condition (member "item" f.name)) := by
    rw [Check.condition]
    split
    · exact (hv.append (by decide)).append htest
    · exact htest
  rw [← Check.condition_eq]
  simp only [oneLine_append, hcondition, oneLine_literal, and_true]
  decide

theorem oneLine_checkTexts (e : Entity) : ∀ t ∈ checkTexts e, OneLine t := by
  simp only [checkTexts, List.forall_mem_append, List.forall_mem_singleton]
  refine ⟨⟨by decide, fun t ht => ?_⟩, by decide⟩
  obtain ⟨f, -, hmem⟩ := List.mem_flatMap.mp ht
  exact oneLine_checkStatements f t hmem

/-! ## The block -/

/-- The first line of the function that checks a record. -/
def checkStart (e : Entity) : String :=
  "export const " ++ e.naming.validateFn
    ++ (" = (item: Partial<" ++ e.naming.interfaceName ++ r">): string[] => {")

theorem head?_checkStart (e : Entity) : (checkStart e).toList.head? = some 'e' := by
  unfold checkStart
  simp

theorem interfaceStart_ne_checkStart (e : Entity) : interfaceStart e ≠ checkStart e := by
  intro he
  have hlist := congrArg String.toList he
  unfold interfaceStart checkStart at hlist
  simp at hlist

/-- Whatever the names are, the first lines of the two functions end differently. -/
theorem defaultStart_ne_checkStart (e : Entity) : defaultStart e ≠ checkStart e := by
  intro he
  have hlist := congrArg (fun s => s.toList.reverse) he
  unfold defaultStart checkStart at hlist
  simp at hlist

section

variable {e : Entity} (h : e.naming.OfParts)

include h

theorem oneLine_checkStart : OneLine (checkStart e) := by
  have hname : OneLine e.naming.validateFn := OneLine.append (by decide) h.oneLine_plural
  have hrest : OneLine (" = (item: Partial<" ++ e.naming.interfaceName ++ r">): string[] => {") :=
    (OneLine.append (by decide) h.oneLine_interfaceName).append (by decide)
  exact (OneLine.append (by decide) hname).append hrest

/-- **The checks stand in the text between the ends of their function.** -/
theorem linesBetween_checks (hf : ∀ f ∈ e.fields, f.classification = f.spec.classification) :
    linesBetween (checkStart e) r"};" (textLines (entityData e).text) =
      (checkTexts e).map fun t => Line.text ⟨2, .code t⟩ := by
  have hsplit : (entityData e).lines =
      (Line.code (entityComment e) :: Line.code (interfaceStart e) ::
        ((propertyTexts e).map (fun t => ⟨2, .code t⟩) ++ Line.code "\x7d" :: Line.blank ::
          Line.code (defaultStart e) :: ((defaultTexts e).map (fun t => ⟨2, .code t⟩) ++
            [Line.code r"});", Line.blank]))) ++ Line.code (checkStart e) ::
              ((checkTexts e).map (fun t => ⟨2, .code t⟩) ++ Line.code r"};" :: []) := by
    unfold checkStart
    rw [lines_entityData, lastDeclaration_eq, checkFunction]
    simp
  -- The function begins with the word that the other one begins with, but not with its first line.
  have hbefore : ∀ l ∈ Line.code (entityComment e) :: Line.code (interfaceStart e) ::
      ((propertyTexts e).map (fun t => ⟨2, .code t⟩) ++ Line.code "\x7d" :: Line.blank ::
        Line.code (defaultStart e) :: ((defaultTexts e).map (fun t => ⟨2, .code t⟩) ++
          [Line.code r"});", Line.blank])), OneLine l.text ∧ l.text ≠ checkStart e := by
    have hhead := head?_checkStart e
    have hinner {texts : List String} (htexts : ∀ t ∈ texts, OneLine t) : ∀ t ∈ texts,
        OneLine (Line.text ⟨2, .code t⟩) ∧ Line.text ⟨2, .code t⟩ ≠ checkStart e := by
      intro t ht
      have hfar := text_ne_of_lt (k := 0) (n := 2) (t := t) (by decide) hhead (by decide)
      exact ⟨oneLine_code (htexts t ht), fun he => hfar (he.trans (text_code _).symm)⟩
    simp only [List.forall_mem_cons, List.forall_mem_append, List.forall_mem_map, text_code]
    exact ⟨⟨oneLine_entityComment h, ne_of_head (by simp [head?_entityComment]) hhead⟩,
      ⟨oneLine_interfaceStart h, interfaceStart_ne_checkStart e⟩,
      hinner (oneLine_propertyTexts e), ⟨by decide, ne_of_head (by decide) hhead⟩,
      ⟨by decide, ne_of_head (by decide) hhead⟩,
      ⟨oneLine_defaultStart h, defaultStart_ne_checkStart e⟩,
      hinner (oneLine_defaultTexts e hf), ⟨by decide, ne_of_head (by decide) hhead⟩,
      ⟨by decide, ne_of_head (by decide) hhead⟩, fun _ hl => absurd hl List.not_mem_nil⟩
  exact linesBetween_code (k := 0) hsplit (text_code _) (text_code _) hbefore
    (oneLine_checkStart h) (oneLine_checkTexts e) (by decide) (by decide) rfl (by decide)

end

end EntitySlice.Slice
