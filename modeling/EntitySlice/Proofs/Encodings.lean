import EntitySlice.Proofs.Source.Attributes
import EntitySlice.Proofs.Source.RecordUpdates
import EntitySlice.Proofs.Source.Replacements
import EntitySlice.Proofs.Source.Sequences
import EntitySlice.Slice.Form

/-!
# Names and texts read back from code

A text gets into code as a literal, as a key, as a member or as text between tags, and comes out of
it again, whatever it is and whatever stands around it.

* `forall_readsBack` — literals, keys and members stand for the text that they were written for
* `forall_shows` — markup shows the text that it was written for, and takes none of it for its own
-/

namespace EntitySlice.Source

/-! ## Members -/

/-- The text for the object stands before the access to the member as it is. -/
theorem member_eq_append (object name : String) :
    member object name = object ++ member "" name := by
  unfold member
  split <;> simp only [String.append_assoc, String.empty_append]

/-- A dot stands before the names that are identifiers, and before no others. -/
theorem member_eq_dotted_iff (object name : String) :
    member object name = object ++ "." ++ name ↔ isIdentifier name = true := by
  unfold member
  split
  · next h => exact iff_of_true rfl h
  · next h =>
    refine iff_of_false (fun he => ?_) h
    have hchars := congrArg String.toList he
    simp only [String.toList_append, List.append_assoc] at hchars
    simpa using List.append_cancel_left hchars

/-! ## Names -/

/-- Whether code that was written for a name or a text stands for it. -/
structure ReadsBack (name : String) : Prop where
  /-- Between its quotes a literal is the text after five replacements. -/
  replaced : (literal name).toList = '\'' :: replacedAll escapes name.toList ++ ['\'']
  /-- A literal ends at its own quote, whatever follows it. -/
  literal : ∀ rest, readLiteral? ((literal name).toList ++ rest) = some (name.toList, rest)
  /-- A key stands for the name. -/
  key : readKey? (propertyKey name).toList = some name.toList
  /-- It does so before everything that cannot belong to it. -/
  keyFirst : ∀ c rest, isIdentifierPart c = false →
    readKeyFirst? ((propertyKey name).toList ++ c :: rest) = some (name.toList, c :: rest)
  /-- Behind any text for an object there is an access to the name, whatever follows it. -/
  access : ∀ object, member object name = object ++ member "" name ∧
    ∀ c rest, isIdentifierPart c = false →
      readMemberFirst? ((member "" name).toList ++ c :: rest) = some (("", name), c :: rest)
  /-- The member of a variable for a record is what the record holds under the name. -/
  value : ∀ (s : RecordScope) (inherited : Value → String → Value) (x : String) (r : Record),
    isIdentifier x = true → s.records x = some r →
      s.member? inherited (member x name) = some (r.read inherited name)
  /-- The access has a dot if the name is an identifier, and only then. -/
  dotted : ∀ object, member object name = object ++ "." ++ name ↔ isIdentifier name = true

/-- Two names with the same key are the same. -/
theorem propertyKey_injective : Function.Injective propertyKey := by
  intro a b h
  have hread : some a.toList = some b.toList := by
    rw [← readKey?_propertyKey a, ← readKey?_propertyKey b, h]
  exact String.toList_inj.mp (Option.some.inj hread)

/-- **Literals, keys and members stand for what they were written for**, for every text. -/
theorem forall_readsBack : (∀ name, ReadsBack name) ∧ Function.Injective propertyKey := by
  refine ⟨fun name => ?_, propertyKey_injective⟩
  constructor
  case replaced =>
    rw [replacedAll_escapes, Source.literal, String.toList_ofList]
    rfl
  case literal =>
    intro rest
    rw [Source.literal, String.toList_ofList]
    exact readLiteral?_literalChars name.toList rest
  case key => exact readKey?_propertyKey name
  case keyFirst => exact fun c rest hc => readKeyFirst?_propertyKey name hc rest
  case access =>
    exact fun object => ⟨member_eq_append object name, fun c rest hc =>
      readMemberFirst?_member (x := "") (fun _ h => absurd h List.not_mem_nil) name hc rest⟩
  case value =>
    exact fun s inherited x r hx hr =>
      s.member?_member (fun _ hc => isIdentifierPart_of_mem hx hc) hr inherited name
  case dotted => exact fun object => member_eq_dotted_iff object name

/-! ## Text between tags -/

/-- The characters that markup takes for its own, apart from the one that references start with. -/
def markupMarks : List Char := ['<', '>', '\x7b', '\x7d']

/-- No mark comes into the text. -/
theorem notMem_markupMarks {cs : List Char} {c : Char} (hc : c ∈ markupChars cs) :
    c ∉ markupMarks := by
  obtain ⟨d, -, hc⟩ := List.mem_flatMap.mp hc
  rw [markupChar_eq_substitute] at hc
  rcases substitute_cases references d with ⟨r, hr, -, htext⟩ | ⟨hno, hstays⟩
  · have htexts : ∀ r ∈ references, ∀ c ∈ r.text, c ∉ markupMarks := by
      simp [references, markupMarks]
    exact htexts r hr c (htext ▸ hc)
  · -- A character that stays is none of those that are replaced, and the marks are among these.
    rw [hstays, List.mem_singleton] at hc
    subst hc
    have hmarks : ∀ m ∈ markupMarks, ∃ r ∈ references, r.char = m := by
      simp [references, markupMarks]
    intro hmem
    obtain ⟨r, hr, hchar⟩ := hmarks _ hmem
    exact hno r hr hchar

/-- An ampersand in what stands for one character is the first character of a reference. -/
theorem substitute_eq_append {c : Char} {before rest : List Char}
    (h : markupChar c = before ++ '&' :: rest) : ∃ r ∈ references, r.text = '&' :: rest := by
  rw [markupChar_eq_substitute] at h
  rcases substitute_cases references c with ⟨r, hr, -, htext⟩ | ⟨hno, hstays⟩
  · have honly : ∀ r ∈ references, '&' ∉ r.text.tail := by decide
    cases before with
    | nil => exact ⟨r, hr, htext.symm.trans h⟩
    | cons d before =>
      refine absurd ?_ (honly r hr)
      rw [← htext, h]
      simp
  · rw [hstays] at h
    have hc : '&' ∈ [c] := by rw [h]; simp
    exact absurd (List.mem_singleton.mp hc) (hno ⟨'&', ['&', 'a', 'm', 'p', ';']⟩ (by decide))

/-- **Every ampersand in the text starts one of the references.** -/
theorem exists_reference_of_markupChars {cs : List Char} (before : List Char) {rest : List Char}
    (h : markupChars cs = before ++ '&' :: rest) : ∃ r ∈ references, r.text <+: '&' :: rest := by
  induction cs generalizing before with
  | nil => simp [markupChars] at h
  | cons c cs ih =>
    have hcons : markupChars (c :: cs) = markupChar c ++ markupChars cs := List.flatMap_cons
    rw [hcons] at h
    rcases List.append_eq_append_iff.mp h with ⟨more, -, hrest⟩ | ⟨more, hchar, hrest⟩
    · exact ih more hrest
    · cases more with
      | nil => exact ih [] hrest.symm
      | cons d more =>
        obtain ⟨rfl, rfl⟩ := List.cons.inj hrest
        obtain ⟨r, hr, htext⟩ := substitute_eq_append hchar
        exact ⟨r, hr, htext ▸ List.prefix_append _ _⟩

/-- Whether the three names that are written are known, each for its character. -/
structure KnowsNames (named? : List Char → Option Char) : Prop where
  ampersand : named? ['a', 'm', 'p'] = some '&'
  less : named? ['l', 't'] = some '<'
  greater : named? ['g', 't'] = some '>'

/-- Each reference is read as the character that it stands for. -/
theorem KnowsNames.readReference?_of_mem {named? : List Char → Option Char} (h : KnowsNames named?)
    {r : Replacement} (hr : r ∈ references) :
    ∃ name, r.text = '&' :: name ∧
      ∀ rest, readReference? named? (name ++ rest) = some (r.char, rest) := by
  obtain ⟨hampersand, hless, hgreater⟩ := h
  simp only [references, List.mem_cons, List.not_mem_nil, or_false] at hr
  rcases hr with rfl | rfl | rfl | rfl | rfl
  · exact ⟨['a', 'm', 'p', ';'], rfl, fun rest =>
      congrArg (Option.map (·, rest)) hampersand⟩
  · exact ⟨['l', 't', ';'], rfl, fun rest => congrArg (Option.map (·, rest)) hless⟩
  · exact ⟨['g', 't', ';'], rfl, fun rest => congrArg (Option.map (·, rest)) hgreater⟩
  · exact ⟨['#', '1', '2', '3', ';'], rfl, fun rest => rfl⟩
  · exact ⟨['#', '1', '2', '5', ';'], rfl, fun rest => rfl⟩

/-- **Whatever else is a reference, the text is decoded to what it was written for.** -/
theorem KnowsNames.decodeReferences_markupChars {named? : List Char → Option Char}
    (h : KnowsNames named?) (cs : List Char) :
    decodeReferences named? (markupChars cs) = cs := by
  induction cs with
  | nil => exact decodeReferences_nil
  | cons c cs ih =>
    have hcons : markupChars (c :: cs) = markupChar c ++ markupChars cs := List.flatMap_cons
    rw [hcons, markupChar_eq_substitute]
    rcases substitute_cases references c with ⟨r, hr, rfl, htext⟩ | ⟨hno, hstays⟩
    · obtain ⟨name, hname, hread⟩ := h.readReference?_of_mem hr
      rw [htext, hname, List.cons_append, decodeReferences_of_some (hread _), ih]
    · have hc : c ≠ '&' := Ne.symm (hno ⟨'&', ['&', 'a', 'm', 'p', ';']⟩ (by decide))
      rw [hstays, List.singleton_append, decodeReferences_cons hc, ih]

/-- Whether text between tags shows a text and nothing else. -/
structure Shows (s : String) : Prop where
  /-- The text between tags is the text after five replacements. -/
  replaced : (markupText s).toList = replacedAll references s.toList
  /-- It has none of the marks. -/
  marks : ∀ c ∈ (markupText s).toList, c ∉ markupMarks
  /-- Wherever an ampersand is, one of the references starts. -/
  ampersands : ∀ before rest, (markupText s).toList = before ++ '&' :: rest →
    ∃ r ∈ references, r.text <+: '&' :: rest
  /-- The references decoded from left to right, it is the text again. -/
  decoded : decodeText (markupText s).toList = s.toList
  /-- So it is with any more references that are known. -/
  decodedBy : ∀ named?, KnowsNames named? →
    decodeReferences named? (markupText s).toList = s.toList

theorem toList_markupText (s : String) : (markupText s).toList = markupChars s.toList :=
  String.toList_ofList

theorem decodeText_markupText (s : String) : decodeText (markupText s).toList = s.toList := by
  rw [toList_markupText, decodeText_markupChars]

/-- Two texts that are written alike are the same. -/
theorem markupText_injective : Function.Injective markupText := by
  intro a b h
  rw [← String.toList_inj, ← decodeText_markupText a, ← decodeText_markupText b, h]

/--
**Text between tags shows what it was written for**, for every text, and so the label of a field
shows its name in title case.
-/
theorem forall_shows : (∀ s, Shows s) ∧ Function.Injective markupText ∧
    ∀ f : Field, decodeText (Slice.label f).toList = (Text.titleCase f.name).toList := by
  refine ⟨fun s => ?_, markupText_injective, fun f => decodeText_markupText f.title⟩
  constructor
  case replaced => rw [toList_markupText, replacedAll_references]
  case marks => exact fun c hc => notMem_markupMarks (toList_markupText s ▸ hc)
  case ampersands =>
    exact fun before rest h => exists_reference_of_markupChars before (toList_markupText s ▸ h)
  case decoded => exact decodeText_markupText s
  case decodedBy => exact fun named? h => by rw [toList_markupText, h.decodeReferences_markupChars]

/-- A name with a reference in it is shown with the reference as text. -/
example : (markupText "Rock &lt; Roll").toList = "Rock &amp;lt; Roll".toList := by decide

end EntitySlice.Source
