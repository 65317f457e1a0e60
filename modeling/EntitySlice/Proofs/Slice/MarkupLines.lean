import EntitySlice.Proofs.Encodings
import EntitySlice.Proofs.Source.Tags
import EntitySlice.Slice.Component.Add

/-!
# Markup on the lines of dialogs

The tags in a dialog can be read from its text (`AreMarkup`) if its statements do not begin like
tags, its texts have no sign that tags begin with, and the code of its attributes ends with its
braces. There is a lemma for each way to build lines, up to the frame of a dialog
(`AreMarkup.dialog`) and the element that edits a field (`readable_inputElement`).
-/

namespace EntitySlice.Slice

open EntitySlice.Source

/-- Whether the tags on lines are read back, and nothing else on them is read. -/
abbrev AreMarkup (lines : List Line) : Prop := OnLines Source.Content.IsMarkup lines

/-! ## Statements -/

/-- Code on one line that begins neither with a blank nor like a tag. -/
structure IsStatement (s : String) : Prop where
  oneLine : OneLine s
  start : ∃ c, s.toList.head? = some c ∧ c ≠ ' ' ∧ c ≠ '<'

namespace IsStatement

variable {s t : String}

/-- The characters of a text decide; a text is slow to take apart. -/
theorem ofList {c : Char} {cs : List Char} (h : '\n' ∉ c :: cs ∧ c ≠ ' ' ∧ c ≠ '<') :
    IsStatement (String.ofList (c :: cs)) where
  oneLine := .ofList h.1
  start := ⟨c, by rw [String.toList_ofList]; rfl, h.2⟩

/-- What stands further back on the line does not matter. -/
theorem append (h : IsStatement s) (ht : OneLine t) : IsStatement (s ++ t) where
  oneLine := h.oneLine.append ht
  start := by
    obtain ⟨c, hc, hstart⟩ := h.start
    exact ⟨c, by rw [String.toList_append, List.head?_append, hc]; rfl, hstart⟩

theorem isMarkup (h : IsStatement s) : (Source.Content.code s).IsMarkup := by
  obtain ⟨c, hc, hblank, htag⟩ := h.start
  obtain ⟨cs, hcs⟩ := List.head?_eq_some_iff.mp hc
  refine .inr ⟨h.oneLine, ?_⟩
  rw [hcs, List.dropWhile_cons_of_neg (by simpa using hblank)]
  simpa using htag

end IsStatement

/-! ## Attributes and elements -/

theorem notMem_markupText {c : Char} (hc : c ∈ markupMarks) (s : String) :
    c ∉ (markupText s).toList := by
  rw [toList_markupText]
  exact fun h => notMem_markupMarks h hc

theorem lt_notMem_markupText (s : String) : '<' ∉ (markupText s).toList :=
  notMem_markupText (by decide) s

/-- Code that does not begin with a backquote is no text with a number. -/
theorem isExpression_of_head {s : String} (h : Balanced s) {c : Char}
    (hhead : s.toList.head? = some c) (hc : c ≠ '\x60') : IsExpression s :=
  ⟨h, numberedStem?_of_head hhead hc⟩

theorem isExpression_ofList {c : Char} {cs : List Char} (hc : c ≠ '\x60')
    (h : CodeScan.start.run? (c :: cs) = some .start ∧ '\n' ∉ c :: cs) :
    IsExpression (String.ofList (c :: cs)) :=
  isExpression_of_head (.ofList h) (by rw [String.toList_ofList]; rfl) hc

theorem isExpression_append {c : Char} {cs : List Char} (hc : c ≠ '\x60')
    (hs : Balanced (String.ofList (c :: cs))) {t : String} (ht : Balanced t) :
    IsExpression (String.ofList (c :: cs) ++ t) :=
  isExpression_of_head (hs.append ht) (c := c) (by simp) hc

theorem isExpression_literal (s : String) : IsExpression (literal s) :=
  isExpression_of_head (.literal s) (c := '\'') (by simp [literal, literalChars]) (by decide)

theorem isExpression_literalList (texts : List String) : IsExpression (literalList texts) :=
  isExpression_of_head (.literalList texts) (c := '[') (by simp [literalList]) (by decide)

/-- The member of a variable is code. -/
theorem isExpression_member {x : String} (hx : IsWord x) (name : String) :
    IsExpression (member x name) := by
  have hbalanced : Balanced (member x name) := (Balanced.of_isIdentifierPart hx.parts).member name
  obtain ⟨c, cs, hcs⟩ := List.exists_cons_of_ne_nil hx.ne_nil
  have hhead : (member x name).toList.head? = some c := by
    unfold member
    split <;> simp [hcs]
  refine isExpression_of_head hbalanced hhead ?_
  rintro rfl
  exact absurd (hx.parts '\x60' (hcs ▸ List.mem_cons_self)) (by decide)

/-- A text of an attribute is read up to the quote behind it. -/
theorem readable_attr {name : String} (hname : IsWord name) {cs : List Char}
    (h : '"' ∉ cs ∧ '\n' ∉ cs) : (attr name (String.ofList cs)).Readable := by
  refine ⟨hname, ?_, .ofList h.2⟩
  rw [String.toList_ofList]
  exact h.1

theorem readable_classes {cs : List Char} (h : '"' ∉ cs ∧ '\n' ∉ cs) :
    (classes (String.ofList cs)).Readable :=
  readable_attr (by decide) h

theorem readable_attrCode {name code : String} (hname : IsWord name) (h : IsExpression code) :
    (attrCode name code).Readable :=
  ⟨hname, h⟩

theorem readable_element {tag : String} (htag : IsWord tag) {attributes : List Attribute}
    (h : ∀ a ∈ attributes, a.Readable) : (⟨tag, attributes⟩ : Element).Readable :=
  ⟨htag, h⟩

/-- An element with nothing but a look. -/
theorem readable_styled {tag : String} (htag : IsWord tag) {style : String}
    (hstyle : (classes style).Readable) : (⟨tag, [classes style]⟩ : Element).Readable :=
  readable_element htag (List.forall_mem_singleton.mpr hstyle)

/-! ## Lines -/

namespace AreMarkup

variable {lines more : List Line} {style : String} {attributes : List Attribute} {text : String}

theorem append (h : AreMarkup lines) (hmore : AreMarkup more) : AreMarkup (lines ++ more) :=
  OnLines.append h hmore

theorem cons {l : Line} (h : AreMarkup [l]) (hlines : AreMarkup lines) : AreMarkup (l :: lines) :=
  append h hlines

theorem nest (h : AreMarkup lines) : AreMarkup (nest lines) := OnLines.nest h

theorem flatMap {α : Type} {f : α → List Line} {as : List α} (h : ∀ a ∈ as, AreMarkup (f a)) :
    AreMarkup (as.flatMap f) :=
  OnLines.flatMap h

theorem code {texts : List String} (h : ∀ s ∈ texts, IsStatement s) : AreMarkup (code texts) :=
  OnLines.code trivial fun s hs => (h s hs).isMarkup

theorem statement {s : String} (h : IsStatement s) : AreMarkup (Source.code [s]) :=
  code (List.forall_mem_singleton.mpr h)

theorem line {s : String} (h : IsStatement s) : AreMarkup [Line.code s] := .single h.isMarkup

theorem block {first last : String} (hfirst : IsStatement first) (h : AreMarkup lines)
    (hlast : IsStatement last) : AreMarkup (block first lines last) :=
  OnLines.block hfirst.isMarkup h hlast.isMarkup

theorem paragraphs {groups : List (List Line)} (h : ∀ g ∈ groups, AreMarkup g) :
    AreMarkup (paragraphs groups) :=
  OnLines.paragraphs trivial h

theorem element {e : Element} (he : e.Readable) (h : AreMarkup lines) :
    AreMarkup (element e lines) :=
  OnLines.element he h he

theorem leaf {e : Element} (he : e.Readable) : AreMarkup [leaf e] := .single (l := Source.leaf e) he

theorem around {e : Element} (he : e.Readable) (htext : '<' ∉ text.toList ∨ OneLine text) :
    AreMarkup [around e text] :=
  .single ⟨he, htext⟩

theorem file {f : File} (h : ∀ items ∈ f.sections, ∀ i ∈ items, AreMarkup i.lines) :
    AreMarkup f.lines := by
  refine OnLines.file trivial fun i hi => ?_
  obtain ⟨items, hitems, hi⟩ := List.mem_flatten.mp hi
  exact h items hitems i hi

/-! ## Elements that differ in their look -/

theorem division (hstyle : (classes style).Readable) (h : AreMarkup lines) :
    AreMarkup (division style lines) :=
  .element (readable_styled (by decide) hstyle) h

theorem paragraph (hstyle : (classes style).Readable) (htext : OneLine text) :
    AreMarkup [paragraph style text] :=
  .around (readable_styled (by decide) hstyle) (.inr htext)

theorem paragraphIf {condition : String} (hcondition : OneLine condition)
    (hstyle : (classes style).Readable) (htext : OneLine text) :
    AreMarkup [paragraphIf condition style text] := by
  have hp : (paragraphElement style).Readable := readable_styled (by decide) hstyle
  have hopening : OneLine (paragraphElement style).openingTag :=
    (oneLine_head hp).append (.ofList (by decide))
  have hstart : IsStatement ("\x7b" ++ (condition ++ " && " ++ (paragraphElement style).openingTag
      ++ text ++ (paragraphElement style).closingTag)) :=
    .append (.ofList (by decide)) ((((hcondition.append (.ofList (by decide))).append
      hopening).append htext).append (oneLine_closingTag hp))
  exact .line (hstart.append (.ofList (by decide)))

theorem readable_button (hstyle : (classes style).Readable) (h : ∀ a ∈ attributes, a.Readable) :
    (⟨"button", classes style :: attributes⟩ : Element).Readable :=
  readable_element (by decide) (List.forall_mem_cons.mpr ⟨hstyle, h⟩)

theorem button (hstyle : (classes style).Readable) (h : ∀ a ∈ attributes, a.Readable)
    (htext : OneLine text) : AreMarkup [button style attributes text] :=
  .around (readable_button hstyle h) (.inr htext)

theorem busyButton (hstyle : (classes style).Readable) (h : ∀ a ∈ attributes, a.Readable)
    (busy idle : String) : AreMarkup (busyButton style attributes busy idle) := by
  have htext : IsStatement ("\x7bisLoading ? " ++ literal busy ++ " : " ++ literal idle ++ "\x7d") :=
    ((((IsStatement.ofList (by decide)).append (oneLine_literal busy)).append
      (.ofList (by decide))).append (oneLine_literal idle)).append (.ofList (by decide))
  exact .element (readable_button hstyle h) (.line htext)

theorem onlyIf {condition : String} (hcondition : OneLine condition) (h : AreMarkup lines) :
    AreMarkup (onlyIf condition lines) :=
  .block ((IsStatement.append (.ofList (by decide)) hcondition).append (.ofList (by decide))) h
    (.ofList (by decide))

theorem forEach {items parameters : String} (hitems : OneLine items)
    (hparameters : OneLine parameters) (h : AreMarkup lines) :
    AreMarkup (forEach items parameters lines) := by
  have hstart : IsStatement (r"{" ++ items ++ ".map((") :=
    (IsStatement.append (.ofList (by decide)) hitems).append (.ofList (by decide))
  exact .block ((hstart.append hparameters).append (.ofList (by decide))) h (.ofList (by decide))

/-! ## The frame of a dialog -/

theorem readable_onClick {c : Char} {cs : List Char} (hc : c ≠ '\x60')
    (h : CodeScan.start.run? (c :: cs) = some .start ∧ '\n' ∉ c :: cs) :
    ∀ a ∈ [onClick (String.ofList (c :: cs))], a.Readable :=
  List.forall_mem_singleton.mpr (readable_attrCode (by decide) (isExpression_ofList hc h))

theorem closeButton (htext : OneLine text) : AreMarkup [closeButton text] :=
  .button (readable_classes (by decide)) (readable_onClick (by decide) (by decide)) htext

/-- A dialog is read back if what is in it is. -/
theorem dialog (title : String) (width : DialogWidth) (h : AreMarkup lines) :
    AreMarkup (dialog title width lines) := by
  have hwidth : (classes ("max-h-[90vh] w-full " ++ width.style
      ++ " overflow-y-auto rounded-lg bg-white p-6 shadow-xl")).Readable := by
    cases width <;> exact ⟨by decide, by decide +kernel⟩
  have htitle : AreMarkup [Source.around ⟨"h2", [classes "text-lg font-semibold"]⟩
      (markupText title)] :=
    .around (readable_styled (by decide) (readable_classes (by decide)))
      (.inl (lt_notMem_markupText title))
  have hclose : AreMarkup [Slice.button "text-gray-500 hover:text-gray-800" [onClick "close"]
      "&times;"] :=
    .button (readable_classes (by decide)) (readable_onClick (by decide) (by decide))
      (.ofList (by decide))
  exact .block (.ofList (by decide)) (.division (readable_classes (by decide))
    (.division hwidth (.append (.division (readable_classes (by decide))
      (htitle.append hclose)) h))) (.ofList (by decide))

theorem errorList : AreMarkup errorList := by
  have hmessage : (⟨"li", [attrCode "key" "message"]⟩ : Element).Readable :=
    readable_element (by decide) (List.forall_mem_singleton.mpr
      (readable_attrCode (by decide) (isExpression_ofList (by decide) (by decide))))
  exact .onlyIf (.ofList (by decide)) (.element
    (readable_styled (by decide) (readable_classes (by decide)))
    (.forEach (.ofList (by decide)) (.ofList (by decide))
      (.around hmessage (.inr (.ofList (by decide))))))

/-! ## Functions -/

theorem closeFunction {modal : String} (hmodal : OneLine modal) {before : List String}
    (h : ∀ s ∈ before, IsStatement s) : AreMarkup (closeFunction modal before) := by
  have htoggle : IsStatement ("toggleModal('" ++ modal ++ "', false);") :=
    (IsStatement.append (.ofList (by decide)) hmodal).append (.ofList (by decide))
  refine .block (.ofList (by decide)) (.code ?_) (.ofList (by decide))
  rw [List.forall_mem_append, List.forall_mem_singleton]
  exact ⟨h, htoggle⟩

theorem tryBlock {statements : List String} (h : ∀ s ∈ statements, IsStatement s)
    (fallback : String) : AreMarkup (tryBlock statements fallback) := by
  have hcatch : IsStatement ("setErrors([errorMessage(error, " ++ literal fallback ++ ")]);") :=
    (IsStatement.append (.ofList (by decide)) (oneLine_literal fallback)).append
      (.ofList (by decide))
  exact (append (.block (.ofList (by decide)) (.code h) (.ofList (by decide)))
    (.nest (.statement hcatch))).append (.statement (.ofList (by decide)))

theorem asyncFunction {name : String} (hname : OneLine name) (h : AreMarkup lines) :
    AreMarkup (asyncFunction name lines) :=
  .block ((IsStatement.append (.ofList (by decide)) hname).append (.ofList (by decide))) h
    (.ofList (by decide))

theorem main {name parameters : String} (hname : OneLine name) (hparameters : OneLine parameters)
    {groups : List (List Line)} (h : ∀ g ∈ groups, AreMarkup g) :
    AreMarkup (Declaration.main name parameters (Source.paragraphs groups)).lines := by
  have hstart : IsStatement ("export default function " ++ name ++ "(") :=
    (IsStatement.append (.ofList (by decide)) hname).append (.ofList (by decide))
  exact .block ((hstart.append hparameters).append (.ofList (by decide))) (.paragraphs h)
    (.ofList (by decide))

theorem errorMessage : AreMarkup errorMessage.lines := by
  have hword : Declaration.exportWord false ++ "const " = "const " := rfl
  have hstart : IsStatement (Declaration.exportWord false ++ "const " ++ "errorMessage"
      ++ " = (error: unknown, fallback: string) =>") := by
    rw [hword]
    exact .append (.append (.ofList (by decide)) (.ofList (by decide))) (.ofList (by decide))
  exact .append (.append (.line hstart) (.nest (.line (.ofList (by decide)))))
    fun _ hc => absurd hc List.not_mem_nil

/-! ## Imports -/

theorem imported {i : Import} (htall : i.tall = false) (hclause : OneLine i.clause)
    (hsource : OneLine i.source) : AreMarkup i.lines := by
  have hfrom : IsStatement ("import " ++ i.clause ++ " from '" ++ i.source ++ "';") :=
    (((IsStatement.append (.ofList (by decide)) hclause).append (.ofList (by decide))).append
      hsource).append (.ofList (by decide))
  have hbare : IsStatement ("import '" ++ i.source ++ "';") :=
    (IsStatement.append (.ofList (by decide)) hsource).append (.ofList (by decide))
  rw [Import.lines, if_neg (by simp [htall])]
  split
  · exact .line hbare
  · exact .line hfrom

theorem named {names : List String} (hnames : ∀ n ∈ names, OneLine n) {source : String}
    (hsource : OneLine source) : AreMarkup (Import.named names source).lines := by
  refine .imported rfl (.intercalate (.ofList (by decide)) ?_) hsource
  rw [Import.named, Option.toList_none, List.nil_append]
  split
  · exact List.forall_mem_nil _
  · exact List.forall_mem_singleton.mpr (.inBraces hnames)

theorem reactImport {names : List String} (h : ∀ n ∈ names, OneLine n) :
    AreMarkup (reactImport names).lines :=
  .named h (.ofList (by decide))

theorem dataImport {names : List String} (h : ∀ n ∈ names, OneLine n) :
    AreMarkup (dataImport names).lines :=
  .named h (.ofList (by decide))

theorem clientDirective : ∀ i ∈ clientDirective, AreMarkup i.lines :=
  List.forall_mem_singleton.mpr (.line (.append (.append (.ofList (by decide))
    (.ofList (by decide))) (.ofList (by decide))))

end AreMarkup

/-! ## Input elements -/

section

variable {f : Field} {value : String} {store : String → String} {id : AttributeValue}
  (hid : id.Readable) (hvalue : IsExpression value)
  (hstore : ∀ v, Balanced v → Balanced (store v))

include hstore

theorem readable_onInput {cs : List Char} (h : Balanced (String.ofList cs)) :
    (onInput store (String.ofList cs)).Readable :=
  readable_attrCode (by decide)
    (isExpression_append (by decide) (.ofList (by decide)) (hstore _ h))

include hid hvalue

/-- **The element that edits a field is read back**, whatever the field is called. -/
theorem readable_inputElement : (inputElement f value store id).Readable := by
  have hword : IsWord "id" := by decide
  have hidAttribute : (⟨"id", id⟩ : Attribute).Readable := ⟨hword, hid⟩
  have hshown : (attrCode "value" value).Readable := readable_attrCode (by decide) hvalue
  have hlook : (classes inputStyle).Readable := readable_classes (by decide)
  unfold inputElement
  split
  · next p _ =>
    have htag : IsWord p.component := by cases p <;> decide
    have hoptions : ∀ a ∈ optionsAttribute f, a.Readable := by
      unfold optionsAttribute
      split
      · exact List.forall_mem_singleton.mpr
          (readable_attrCode (by decide) (isExpression_literalList f.options))
      · exact List.forall_mem_nil _
    have hchange : (onChange ("(value) => " ++ store "value")).Readable :=
      readable_attrCode (by decide)
        (isExpression_append (by decide) (.ofList (by decide)) (hstore _ (.ofList (by decide))))
    refine readable_element htag ?_
    rw [List.forall_mem_append, List.forall_mem_cons, List.forall_mem_cons,
      List.forall_mem_singleton]
    exact ⟨⟨hidAttribute, hshown, hoptions⟩, hchange⟩
  · have hchecked : (attrCode "checked" ("Boolean(" ++ value ++ ")")).Readable := by
      have hcall : IsExpression ("Boolean(" ++ (value ++ ")")) :=
        isExpression_append (by decide) (.ofList (by decide))
          (hvalue.balanced.append (.ofList (by decide)))
      rw [← String.append_assoc] at hcall
      exact readable_attrCode (by decide) hcall
    have htype (w : Widget) : (attr "type" w.inputType).Readable := by
      cases w <;> exact readable_attr (by decide) (by decide)
    have hinput {type : String} (htype : (attr "type" type).Readable) {more : List Attribute}
        (hmore : ∀ a ∈ more, a.Readable) :
        (⟨"input", ⟨"id", id⟩ :: attr "type" type :: more⟩ : Element).Readable := by
      refine readable_element (by decide) ?_
      rw [List.forall_mem_cons, List.forall_mem_cons]
      exact ⟨hidAttribute, htype, hmore⟩
    dsimp only
    split
    · refine readable_element (by decide) ?_
      simp only [List.forall_mem_cons]
      exact ⟨hidAttribute, by decide, hlook, hshown, readable_onInput hstore (.ofList (by decide)),
        List.forall_mem_nil _⟩
    all_goals
      refine hinput (htype _) ?_
      simp only [List.forall_mem_cons]
    · exact ⟨readable_classes (by decide), hchecked,
        readable_onInput hstore (.ofList (by decide)), List.forall_mem_nil _⟩
    · exact ⟨readable_classes (by decide), hchecked,
        readable_onInput hstore (.ofList (by decide)), List.forall_mem_nil _⟩
    · exact ⟨readable_attr (by decide) (by decide), hlook, hshown,
        readable_onInput hstore (.ofList (by decide)), List.forall_mem_nil _⟩
    · exact ⟨readable_attr (by decide) (by decide), hlook, hshown,
        readable_onInput hstore (.ofList (by decide)), List.forall_mem_nil _⟩
    · exact ⟨hlook, hshown, readable_onInput hstore (.ofList (by decide)), List.forall_mem_nil _⟩

end

end EntitySlice.Slice
