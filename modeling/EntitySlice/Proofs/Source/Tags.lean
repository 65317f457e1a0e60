import EntitySlice.Proofs.Source.Bindings
import EntitySlice.Proofs.Source.Braces
import EntitySlice.Proofs.Source.Elements
import EntitySlice.Proofs.Source.RecordUpdates

/-!
# Tags read from a text

Which elements a module has can be read from its text. An element starts at the beginning of a line,
behind blanks, with a tag: a name, and attributes with texts in quotes or code in braces
(`readTag?`). What stands on a line gives the element back that was written there (`readTag?_text`),
as long as its attributes are of these kinds and no code looks like a tag (`Content.IsMarkup`). So
the tags in the text of a module are those of its elements (`tagsIn_text`).
-/

namespace EntitySlice.Source

/-! ## Attributes -/

/-- The stem of a text with the number of the row at its end, if code makes such a text. -/
def numberedStem? (code : List Char) : Option (List Char) := do
  let inside ← ['\x60'].isPrefixOf? code
  r"-${index}`".toList.isSuffixOf? inside

/-- The value that code in braces gives to an attribute. -/
def codeValue (code : List Char) : AttributeValue :=
  match numberedStem? code with
  | some stem => .numbered (String.ofList stem)
  | none => .code (String.ofList code)

/-- The value of an attribute that comes first, and what follows it. -/
def readValue? : List Char → Option (AttributeValue × List Char)
  | '"' :: cs =>
    match cs.dropWhile (· ≠ '"') with
    | [] => none
    | _ :: rest => some (.text (String.ofList (cs.takeWhile (· ≠ '"'))), rest)
  | '\x7b' :: cs => (readCode .start cs).map (Prod.map codeValue id)
  | _ => none

/-- The name that comes first, and what follows it. -/
def readName? (cs : List Char) : Option (String × List Char) :=
  match cs.takeWhile isIdentifierPart with
  | [] => none
  | name => some (String.ofList name, cs.dropWhile isIdentifierPart)

/-- The attribute that comes first, behind a blank, and what follows it. -/
def nextAttribute? (cs : List Char) : Option (Attribute × List Char) := do
  let (name, rest) ← readName? (← [' '].isPrefixOf? cs)
  match rest with
  | '=' :: rest => (readValue? rest).map (Prod.map (Attribute.mk name) id)
  | _ => some (⟨name, .present⟩, rest)

/-- The attributes that come first, and what follows them. -/
def readAttributes (cs : List Char) : List Attribute × List Char :=
  match nextAttribute? cs with
  | none => ([], cs)
  | some (a, rest) =>
    if rest.length < cs.length then (readAttributes rest).map (a :: ·) id else ([], cs)
termination_by cs.length

/-! ## Tags -/

/-- What follows the end of a tag. -/
def behindTagEnd? : List Char → Option (List Char)
  | '>' :: rest => some rest
  | ' ' :: '/' :: '>' :: rest => some rest
  | _ => none

/-- The element with the tag that comes first, behind blanks, and what follows the tag. -/
def readTag? (cs : List Char) : Option (Element × List Char) := do
  let (tag, rest) ← readName? (← ['<'].isPrefixOf? (cs.dropWhile (· = ' ')))
  let (attributes, rest) := readAttributes rest
  let after ← behindTagEnd? rest
  return (⟨tag, attributes⟩, after)

/-! ## What is read back -/

/-- Whether code in the place of a value can be told from all others. -/
structure IsExpression (s : String) : Prop where
  balanced : Balanced s
  unnumbered : numberedStem? s.toList = none

/-- Whether a value is on one line and is read back. -/
def AttributeValue.Readable : AttributeValue → Prop
  | .text s => '"' ∉ s.toList ∧ OneLine s
  | .code s => IsExpression s
  | .numbered stem => ∀ c ∈ stem.toList, c ∉ ['\x60', '\\', '\n']
  | .literal _ => False
  | .present => True

instance : DecidablePred AttributeValue.Readable
  | .text _ => inferInstanceAs (Decidable (_ ∧ _))
  | .code s => decidable_of_iff (Balanced s ∧ numberedStem? s.toList = none)
      ⟨fun h => ⟨h.1, h.2⟩, fun h => ⟨h.balanced, h.unnumbered⟩⟩
  | .numbered stem => List.decidableBAll (· ∉ ['\x60', '\\', '\n']) stem.toList
  | .literal _ => inferInstanceAs (Decidable False)
  | .present => inferInstanceAs (Decidable True)

/-- Whether an attribute is on one line and is read back. -/
structure Attribute.Readable (a : Attribute) : Prop where
  name : IsWord a.name
  value : a.value.Readable

instance : DecidablePred Attribute.Readable := fun a =>
  decidable_of_iff (IsWord a.name ∧ a.value.Readable)
    ⟨fun h => ⟨h.1, h.2⟩, fun h => ⟨h.name, h.value⟩⟩

/-- Whether a tag is on one line and is read back. -/
structure Element.Readable (e : Element) : Prop where
  tag : IsWord e.tag
  attributes : ∀ a ∈ e.attributes, a.Readable

instance : DecidablePred Element.Readable := fun e =>
  decidable_of_iff (IsWord e.tag ∧ ∀ a ∈ e.attributes, a.Readable)
    ⟨fun h => ⟨h.1, h.2⟩, fun h => ⟨h.tag, h.attributes⟩⟩

theorem numberedStem?_numbered (stem : String) :
    numberedStem? ("`" ++ stem ++ r"-${index}`").toList = some stem.toList := by
  have hlist : ("`" ++ stem ++ r"-${index}`").toList =
      ['\x60'] ++ (stem.toList ++ r"-${index}`".toList) := by simp
  rw [numberedStem?, hlist, isPrefixOf?_append]
  simp only [Option.bind_eq_bind, Option.bind_some, isSuffixOf?_append]

/-- Only a text between backquotes has a number at its end. -/
theorem numberedStem?_of_head {s : String} {c : Char} (h : s.toList.head? = some c)
    (hc : c ≠ '\x60') : numberedStem? s.toList = none := by
  obtain ⟨cs, hcs⟩ := List.head?_eq_some_iff.mp h
  have hnone : ['\x60'].isPrefixOf? (c :: cs) = none := if_neg (by simpa using hc.symm)
  rw [numberedStem?, hcs, hnone]
  rfl

theorem readValue?_braced {s : String} (h : Balanced s) (rest : List Char) :
    readValue? ((braced s).toList ++ rest) = some (codeValue s.toList, rest) := by
  have hlist : (braced s).toList ++ rest = '\x7b' :: (s.toList ++ '\x7d' :: rest) := by
    simp [braced]
  rw [hlist, readValue?, readCode_append h]
  rfl

theorem balanced_numbered {stem : String}
    (h : ∀ c ∈ stem.toList, c ∉ ['\x60', '\\', '\n']) :
    Balanced ("`" ++ stem ++ r"-${index}`") := by
  have hend : ∀ c ∈ r"-${index}".toList, c ∉ ['\x60', '\\', '\n'] := by simp
  have htemplate : "`" ++ stem ++ r"-${index}`" = "`" ++ (stem ++ r"-${index}") ++ "`" := by
    simp [← String.toList_inj]
  rw [htemplate]
  refine .template ?_
  rw [String.toList_append, List.forall_mem_append]
  exact ⟨h, hend⟩

/-- **A value is read back**, whatever follows it. -/
theorem readValue?_source {v : AttributeValue} (h : v.Readable) (hv : v ≠ .present)
    (rest : List Char) : readValue? (v.source.toList ++ rest) = some (v, rest) := by
  cases v with
  | text s =>
    have hlist : (AttributeValue.text s).source.toList ++ rest =
        '"' :: (s.toList ++ '"' :: rest) := by
      simp [AttributeValue.source]
    obtain ⟨htake, hdrop⟩ := takeWhile_append_of_notMem h.1 rest
    rw [hlist, readValue?, htake, hdrop, String.ofList_toList]
  | code s =>
    have hvalue : codeValue s.toList = .code s := by
      rw [codeValue, IsExpression.unnumbered h, String.ofList_toList]
    rw [AttributeValue.source, readValue?_braced (IsExpression.balanced h), hvalue]
  | numbered stem =>
    rw [AttributeValue.source, readValue?_braced (balanced_numbered h), codeValue,
      numberedStem?_numbered]
    simp
  | literal s => exact h.elim
  | present => exact absurd rfl hv

theorem oneLine_value {v : AttributeValue} (h : v.Readable) : OneLine v.source := by
  cases v with
  | text s => exact ((OneLine.ofList (by decide)).append h.2).append (.ofList (by decide))
  | code s => exact h.balanced.braced.oneLine
  | numbered stem => exact (balanced_numbered h).braced.oneLine
  | literal s => exact h.elim
  | present => exact .ofList (by decide)

/-- A name is read where no other character of a name follows. -/
theorem readName?_append {s : String} (h : IsWord s) {c : Char} (hc : isIdentifierPart c = false)
    (rest : List Char) : readName? (s.toList ++ c :: rest) = some (s, c :: rest) := by
  obtain ⟨htake, hdrop⟩ := takeWhile_isIdentifierPart h.parts hc rest
  rw [readName?, htake, hdrop]
  split
  · next hnil => exact absurd hnil h.ne_nil
  · rw [String.ofList_toList]

section

variable {a : Attribute} (h : a.Readable)

include h

theorem oneLine_attribute : OneLine a.source := by
  have hname : OneLine a.name := .of_isIdentifierPart h.name.parts
  unfold Attribute.source
  split
  · exact hname
  · exact (hname.append (.ofList (by decide))).append (oneLine_value h.value)

/-- **An attribute is read back** if nothing follows that could belong to it. -/
theorem nextAttribute?_source {c : Char} (hc : isIdentifierPart c = false ∧ c ≠ '=')
    (rest : List Char) :
    nextAttribute? (' ' :: (a.source.toList ++ c :: rest)) = some (a, c :: rest) := by
  obtain ⟨name, value⟩ := a
  have hblank (cs : List Char) : [' '].isPrefixOf? (' ' :: cs) = some cs := isPrefixOf?_append _ cs
  by_cases hv : value = .present
  · subst hv
    have hsource : (⟨name, .present⟩ : Attribute).source = name := rfl
    rw [nextAttribute?, hblank, hsource]
    simp only [Option.bind_eq_bind, Option.bind_some, readName?_append h.name hc.1]
    split
    · next heq => exact absurd (List.cons.inj heq).1 hc.2
    · rfl
  · have hsource : (⟨name, value⟩ : Attribute).source = name ++ "=" ++ value.source := by
      unfold Attribute.source
      split
      · next hpresent => exact absurd hpresent hv
      · rfl
    have hlist : (⟨name, value⟩ : Attribute).source.toList ++ c :: rest =
        name.toList ++ '=' :: (value.source.toList ++ c :: rest) := by
      rw [hsource]
      simp
    rw [nextAttribute?, hblank, hlist]
    simp only [Option.bind_eq_bind, Option.bind_some, readName?_append h.name (c := '=') rfl,
      readValue?_source h.value hv]
    rfl

end

/-! ## The tag of an element -/

/-- The attributes of a tag as they are written, each behind a blank. -/
def attributeChars (attributes : List Attribute) : List Char :=
  attributes.flatMap fun a => ' ' :: a.source.toList

theorem toList_head (e : Element) :
    e.head.toList = '<' :: (e.tag.toList ++ attributeChars e.attributes) := by
  have hjoin (s : String) (texts : List String) : (" ".intercalate (s :: texts)).toList =
      s.toList ++ texts.flatMap fun t => ' ' :: t.toList := by
    induction texts generalizing s with
    | nil => simp
    | cons t texts ih =>
      rw [String.intercalate_cons_cons, String.toList_append, String.toList_append, ih]
      simp
  rw [Element.head, String.toList_append, hjoin, List.flatMap_map]
  rfl

/-- How a tag ends. -/
theorem eq_of_behindTagEnd? {cs rest : List Char} (h : behindTagEnd? cs = some rest) :
    cs = '>' :: rest ∨ cs = ' ' :: '/' :: '>' :: rest := by
  unfold behindTagEnd? at h
  split at h
  · exact .inl (by rw [Option.some.inj h])
  · exact .inr (by rw [Option.some.inj h])
  · simp at h

/-- The end of a tag is no attribute and cannot belong to one. -/
theorem tagEnd_apart {cs rest : List Char} (h : behindTagEnd? cs = some rest) :
    nextAttribute? cs = none ∧
      ∃ c more, cs = c :: more ∧ isIdentifierPart c = false ∧ c ≠ '=' := by
  rcases eq_of_behindTagEnd? h with rfl | rfl
  · exact ⟨rfl, '>', rest, rfl, rfl, by decide⟩
  · exact ⟨rfl, ' ', '/' :: '>' :: rest, rfl, rfl, by decide⟩

/-- **Attributes are read back** in front of the end of a tag. -/
theorem readAttributes_append {attributes : List Attribute}
    (h : ∀ a ∈ attributes, a.Readable) {cs rest : List Char}
    (hend : behindTagEnd? cs = some rest) :
    readAttributes (attributeChars attributes ++ cs) = (attributes, cs) := by
  induction attributes with
  | nil =>
    have hnil : attributeChars [] ++ cs = cs := rfl
    rw [hnil, readAttributes, (tagEnd_apart hend).1]
  | cons a attributes ih =>
    rw [List.forall_mem_cons] at h
    -- What follows an attribute is a blank or the end of the tag.
    obtain ⟨c, more, hcons, hc⟩ : ∃ c more, attributeChars attributes ++ cs = c :: more ∧
        isIdentifierPart c = false ∧ c ≠ '=' := by
      cases attributes with
      | nil => exact (tagEnd_apart hend).2
      | cons b attributes => exact ⟨' ', _, rfl, rfl, by decide⟩
    have hlist : attributeChars (a :: attributes) ++ cs =
        ' ' :: (a.source.toList ++ c :: more) := by
      rw [← hcons]
      simp [attributeChars]
    have hlength : (c :: more).length < (' ' :: (a.source.toList ++ c :: more)).length := by
      simp only [List.length_cons, List.length_append]
      omega
    rw [hlist, readAttributes, nextAttribute?_source h.1 hc]
    dsimp only
    rw [if_pos hlength, ← hcons, ih h.2]
    rfl

section

variable {e : Element} (h : e.Readable)

include h

theorem oneLine_head : OneLine e.head := by
  have htag : OneLine e.tag := .of_isIdentifierPart h.tag.parts
  refine OneLine.append (.ofList (by decide)) (.intercalate (.ofList (by decide)) ?_)
  rw [List.forall_mem_cons, List.forall_mem_map]
  exact ⟨htag, fun a ha => oneLine_attribute (h.attributes a ha)⟩

theorem oneLine_closingTag : OneLine e.closingTag :=
  (OneLine.append (.ofList (by decide)) (.of_isIdentifierPart h.tag.parts)).append
    (.ofList (by decide))

/-- **A tag is read back**, however far in it is and whatever follows it. -/
theorem readTag?_head (n : Nat) {cs rest : List Char} (hend : behindTagEnd? cs = some rest) :
    readTag? (List.replicate n ' ' ++ (e.head.toList ++ cs)) = some (e, rest) := by
  have hdrop : (List.replicate n ' ' ++ (e.head.toList ++ cs)).dropWhile (· = ' ') =
      ['<'] ++ (e.tag.toList ++ (attributeChars e.attributes ++ cs)) := by
    rw [List.dropWhile_append_of_pos (by simp), toList_head, List.cons_append,
      List.dropWhile_cons_of_neg (by decide), List.append_assoc]
    rfl
  have hname : readName? (e.tag.toList ++ (attributeChars e.attributes ++ cs)) =
      some (e.tag, attributeChars e.attributes ++ cs) := by
    cases e.attributes with
    | nil =>
      obtain ⟨c, more, rfl, hc, -⟩ := (tagEnd_apart hend).2
      exact readName?_append h.tag hc more
    | cons a attributes => exact readName?_append h.tag (c := ' ') rfl _
  rw [readTag?, hdrop, isPrefixOf?_append]
  simp only [Option.bind_eq_bind, Option.bind_some, hname,
    readAttributes_append h.attributes hend, hend]
  rfl

end

/-! ## What is no tag -/

/-- Code that does not begin like a tag is none. -/
theorem readTag?_of_head? {cs : List Char} (h : (cs.dropWhile (· = ' ')).head? ≠ some '<') :
    readTag? cs = none := by
  have hnone : ['<'].isPrefixOf? (cs.dropWhile (· = ' ')) = none := by
    cases hcs : cs.dropWhile (· = ' ') with
    | nil => rfl
    | cons c rest =>
      rw [hcs, List.head?_cons, ne_eq, Option.some_inj] at h
      exact if_neg (by simpa using Ne.symm h)
  rw [readTag?, hnone]
  rfl

/-- There is no tag behind a text without the sign that tags begin with, if there is none after. -/
theorem readTag?_append_of_notMem {cs : List Char} (h : '<' ∉ cs) {b : Char} (hb : b ≠ ' ')
    {rest : List Char} (hnone : readTag? (b :: rest) = none) :
    readTag? (cs ++ b :: rest) = none := by
  have hdrop := (takeWhile_append_cons (p := fun c => decide (c = ' ')) (decide_eq_false hb)
    cs rest).2
  cases hcs : cs.dropWhile (· = ' ') with
  | nil =>
    have hrest : (b :: rest).dropWhile (· = ' ') = b :: rest :=
      List.dropWhile_cons_of_neg (by simpa using hb)
    rw [hcs, List.nil_append] at hdrop
    rwa [readTag?, hdrop, ← hrest, ← readTag?]
  | cons c more =>
    refine readTag?_of_head? ?_
    have hmem : c ∈ cs := (List.dropWhile_sublist _).subset (hcs ▸ List.mem_cons_self)
    rw [hdrop, hcs, List.cons_append, List.head?_cons, ne_eq, Option.some_inj]
    exact ne_of_mem_of_not_mem hmem h

theorem readTag?_newline (rest : List Char) : readTag? ('\n' :: rest) = none := rfl

/-- The tag at the end of an element starts none. -/
theorem readTag?_closing (rest : List Char) : readTag? ('<' :: '/' :: rest) = none := rfl

/-! ## Lines of a text -/

/-- What follows each line feed. -/
def behindBreaks : List Char → List (List Char)
  | [] => []
  | c :: cs => if c = '\n' then cs :: behindBreaks cs else behindBreaks cs

/-- What stands from the beginning of each line on. -/
def lineStarts (cs : List Char) : List (List Char) := cs :: behindBreaks cs

theorem behindBreaks_append (as bs : List Char) :
    behindBreaks (as ++ bs) = (behindBreaks as).map (· ++ bs) ++ behindBreaks bs := by
  induction as with
  | nil => rfl
  | cons a as ih =>
    rw [List.cons_append, behindBreaks, behindBreaks, ih]
    split <;> rfl

theorem behindBreaks_eq_nil {cs : List Char} (h : '\n' ∉ cs) : behindBreaks cs = [] := by
  induction cs with
  | nil => rfl
  | cons c cs ih =>
    rw [List.mem_cons, not_or] at h
    rw [behindBreaks, if_neg (Ne.symm h.1), ih h.2]

theorem suffix_of_mem_behindBreaks {cs rest : List Char} (h : rest ∈ behindBreaks cs) :
    rest <:+ cs := by
  induction cs with
  | nil => simp [behindBreaks] at h
  | cons c cs ih =>
    rw [behindBreaks] at h
    split at h
    · rcases List.mem_cons.mp h with rfl | h
      · exact List.suffix_cons c _
      · exact (ih h).trans (List.suffix_cons c cs)
    · exact (ih h).trans (List.suffix_cons c cs)

theorem lineStarts_append (as bs : List Char) : lineStarts (as ++ '\n' :: bs) =
    (as ++ '\n' :: bs) :: ((behindBreaks as).map (· ++ '\n' :: bs) ++ lineStarts bs) := by
  rw [lineStarts, behindBreaks_append]
  rfl

/-! ## What stands on a line -/

/-- What stands on the line behind the tag of the element that starts there. -/
def Content.behindTag : Content → String
  | .around e text => text ++ e.closingTag
  | _ => ""

/-- Whether the tag of the element that starts on a line is read back, and nothing else is read. -/
def Content.IsMarkup : Content → Prop
  | .blank => True
  | .code s => '<' ∉ s.toList ∨ OneLine s ∧ (s.toList.dropWhile (· = ' ')).head? ≠ some '<'
  | .closing e | .opening e | .leaf e => e.Readable
  | .around e text => e.Readable ∧ ('<' ∉ text.toList ∨ OneLine text)

instance : DecidablePred Content.IsMarkup
  | .blank => inferInstanceAs (Decidable True)
  | .code _ => inferInstanceAs (Decidable (_ ∨ _ ∧ _))
  | .closing e | .opening e | .leaf e => inferInstanceAs (Decidable e.Readable)
  | .around _ _ => inferInstanceAs (Decidable (_ ∧ (_ ∨ _)))

/-- **What starts on a line is read at its beginning.** -/
theorem readTag?_text {c : Content} (h : c.IsMarkup) (n : Nat) (rest : List Char) :
    readTag? (List.replicate n ' ' ++ (c.text.toList ++ '\n' :: rest)) =
      c.element?.map (·, c.behindTag.toList ++ '\n' :: rest) := by
  have hdrop (cs : List Char) : (List.replicate n ' ' ++ cs).dropWhile (· = ' ') =
      cs.dropWhile (· = ' ') := List.dropWhile_append_of_pos (by simp)
  have hskip (cs : List Char) : readTag? (List.replicate n ' ' ++ cs) = readTag? cs := by
    rw [readTag?, hdrop, ← readTag?]
  cases c with
  | blank => exact hskip _
  | code s =>
    rw [hskip]
    rcases h with h | ⟨-, h⟩
    · exact readTag?_append_of_notMem h (by decide) (readTag?_newline rest)
    · have hcode := (takeWhile_append_cons (p := fun c => decide (c = ' ')) (b := '\n') rfl
        s.toList rest).2
      refine readTag?_of_head? ?_
      rw [Content.text, hcode]
      cases hs : s.toList.dropWhile (· = ' ') with
      | nil => simp
      | cons c more => simpa [hs] using h
  | closing e =>
    have hlist : (Content.closing e).text.toList ++ '\n' :: rest =
        '<' :: '/' :: (e.tag.toList ++ '>' :: '\n' :: rest) := by
      simp [Content.text, Element.closingTag]
    rw [hskip, hlist]
    exact readTag?_closing _
  | opening e =>
    have hlist : (Content.opening e).text.toList ++ '\n' :: rest =
        e.head.toList ++ '>' :: '\n' :: rest := by
      simp [Content.text, Element.openingTag]
    rw [hlist]
    exact readTag?_head h n rfl
  | leaf e =>
    have hlist : (Content.leaf e).text.toList ++ '\n' :: rest =
        e.head.toList ++ ' ' :: '/' :: '>' :: '\n' :: rest := by
      simp [Content.text, Element.emptyTag]
    rw [hlist]
    exact readTag?_head h n rfl
  | around e text =>
    have hlist : (Content.around e text).text.toList ++ '\n' :: rest =
        e.head.toList ++ '>' :: ((text ++ e.closingTag).toList ++ '\n' :: rest) := by
      simp [Content.text, Element.openingTag]
    rw [hlist]
    exact readTag?_head h.1 n rfl

/-- **Nothing is read further back on the line**, where there are line feeds in a text. -/
theorem readTag?_of_mem_behindBreaks {c : Content} (h : c.IsMarkup) {cs : List Char}
    (hcs : cs ∈ behindBreaks c.text.toList) (rest : List Char) :
    readTag? (cs ++ '\n' :: rest) = none := by
  have honeLine {s : String} (hs : OneLine s) : cs ∉ behindBreaks s.toList := by
    rw [behindBreaks_eq_nil hs]
    exact List.not_mem_nil
  have hclosing {e : Element} (he : e.Readable) : OneLine e.openingTag ∧ OneLine e.closingTag :=
    ⟨(oneLine_head he).append (.ofList (by decide)), oneLine_closingTag he⟩
  cases c with
  | blank => exact absurd hcs (honeLine (.ofList (by decide)))
  | code s =>
    rcases h with h | ⟨h, -⟩
    · have hnot : '<' ∉ cs := fun hmem => h ((suffix_of_mem_behindBreaks hcs).subset hmem)
      exact readTag?_append_of_notMem hnot (by decide) (readTag?_newline rest)
    · exact absurd hcs (honeLine h)
  | closing e => exact absurd hcs (honeLine (hclosing h).2)
  | opening e => exact absurd hcs (honeLine (hclosing h).1)
  | leaf e => exact absurd hcs (honeLine ((oneLine_head h).append (.ofList (by decide))))
  | around e text =>
    obtain ⟨he, htext⟩ := h
    obtain ⟨hopen, hclose⟩ := hclosing he
    rcases htext with htext | htext
    · rw [Content.text, String.toList_append, String.toList_append, behindBreaks_append,
        behindBreaks_append, behindBreaks_eq_nil hopen, behindBreaks_eq_nil hclose, List.map_nil,
        List.nil_append, List.append_nil] at hcs
      -- What is left of the text is followed by the tag at the end of the element.
      obtain ⟨more, hmore, rfl⟩ := List.mem_map.mp hcs
      have hnot : '<' ∉ more := fun hmem => htext ((suffix_of_mem_behindBreaks hmore).subset hmem)
      have hlist : (more ++ e.closingTag.toList) ++ '\n' :: rest =
          more ++ '<' :: '/' :: (e.tag.toList ++ '>' :: '\n' :: rest) := by
        simp [Element.closingTag]
      rw [hlist]
      exact readTag?_append_of_notMem hnot (by decide) (readTag?_closing _)
    · exact absurd hcs (honeLine ((hopen.append htext).append hclose))

/-! ## Tags in a text -/

/-- What is read from the tags at the beginnings of lines and what follows them. -/
def readTags {α : Type} (read? : Element → List Char → Option α) (s : String) : List α :=
  (lineStarts s.toList).filterMap fun cs => (readTag? cs).bind fun (e, rest) => read? e rest

/-- **What is read from the text of lines is what stands on them.** -/
theorem readTags_linesText {α : Type} {read? : Element → List Char → Option α}
    {shown? : Content → Option α} {lines : List Line}
    (h : OnLines (fun c => c.IsMarkup ∧ ∀ rest : List Char,
      (c.element?.bind fun e => read? e (c.behindTag.toList ++ '\n' :: rest)) = shown? c) lines) :
    readTags read? (linesText lines) = readOn shown? lines := by
  induction lines with
  | nil => rfl
  | cons l lines ih =>
    rw [OnLines, List.map_cons, List.forall_mem_cons] at h
    obtain ⟨⟨hmarkup, hshown⟩, hlines⟩ := h
    obtain ⟨n, hmargin⟩ : ∃ n, l.margin.toList = List.replicate n ' ' := by
      unfold Line.margin
      split
      · exact ⟨0, rfl⟩
      · exact ⟨l.indentation, String.toList_ofList⟩
    have hbreaks : behindBreaks l.text.toList = behindBreaks l.content.text.toList := by
      have hnone : '\n' ∉ l.margin.toList := by simp [hmargin]
      rw [Line.text, String.toList_append, behindBreaks_append, behindBreaks_eq_nil hnone]
      rfl
    have htext : (linesText (l :: lines)).toList =
        l.text.toList ++ '\n' :: (linesText lines).toList := by
      simp [linesText, String.toList_join]
    have hfirst (rest : List Char) : ((readTag? (l.text.toList ++ '\n' :: rest)).bind
        fun (e, rest) => read? e rest) = shown? l.content := by
      rw [Line.text, String.toList_append, List.append_assoc, hmargin, readTag?_text hmarkup,
        Option.bind_map, ← hshown rest]
      rfl
    have hlater (rest : List Char) :
        ((behindBreaks l.content.text.toList).map (· ++ '\n' :: rest)).filterMap
          (fun cs => (readTag? cs).bind fun (e, rest) => read? e rest) = [] := by
      refine List.filterMap_eq_nil_iff.mpr (List.forall_mem_map.mpr fun cs hcs => ?_)
      rw [readTag?_of_mem_behindBreaks hmarkup hcs]
      rfl
    rw [readOn_cons, ← ih hlines, readTags, htext, lineStarts_append, hbreaks, List.filterMap_cons,
      List.filterMap_append, hlater, List.nil_append, hfirst, readTags]
    cases shown? l.content <;> rfl

/-- The elements whose tags begin a line of a text. -/
def tagsIn (s : String) : List Element := readTags (fun e _ => some e) s

/-- **The tags in the text of a module are those of its elements.** -/
theorem tagsIn_text {f : File} (h : OnLines Content.IsMarkup f.lines) :
    tagsIn f.text = f.elements := by
  have hshown (c : Content) (_ : List Char) : (c.element?.bind fun e => some e) = c.element? := by
    cases c.element? <;> rfl
  exact readTags_linesText (h.imp fun c hc => ⟨hc, hshown c⟩)

end EntitySlice.Source
