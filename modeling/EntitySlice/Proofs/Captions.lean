import EntitySlice.Proofs.Bindings
import EntitySlice.Proofs.Source.Attributes
import EntitySlice.Proofs.Source.Elements

/-!
# Captions of images

The dialog that shows a record has the title of a field as the text in the place of its image, and
writes it as a string literal. As the text of an attribute this is the title only if nothing in the
title is escaped and nothing in it is a reference to a character (`plan_captions`).
-/

namespace EntitySlice

open EntitySlice.Slice EntitySlice.Source

namespace Source

/-- What stands on the lines of the function that a module is for stands on lines of the module. -/
theorem content_mem_of_main {f : File} {name parameters : String} {groups : List (List Line)}
    (hf : f.sections.getLast? = some [.declared (.main name parameters (paragraphs groups))])
    {lines : List Line} (hg : lines ∈ groups) {c : Source.Content}
    (h : c ∈ lines.map Line.content) : c ∈ f.lines.map Line.content := by
  have hitem : .declared (.main name parameters (paragraphs groups)) ∈ f.items :=
    List.mem_flatten.mpr ⟨_, List.mem_of_getLast? hf, List.mem_singleton_self _⟩
  obtain ⟨l, hl, rfl⟩ := List.mem_map.mp h
  have hbody : l.content ∈ (paragraphs groups).map Line.content :=
    List.mem_map_of_mem (mem_paragraphs hg hl)
  have hmain : l.content ∈ ((Item.declared (.main name parameters (paragraphs groups))).lines).map
      Line.content := by
    rw [Item.lines, Declaration.lines, map_content_block]
    exact List.mem_append_left _ (List.mem_cons_of_mem _ hbody)
  obtain ⟨l', hl', hcontent⟩ := List.mem_map.mp hmain
  exact hcontent ▸ List.mem_map_of_mem (File.mem_lines hitem hl')

end Source

namespace Slice

/-- The line with the value of an image before its caption. -/
def captionStart (f : Field) : String :=
  let v := member "selectedItem" f.name
  "<dd className=\"col-span-2\">\x7b" ++ v ++ " && <img src=\x7b" ++ v ++ "\x7d alt="

/-- The line with the value of an image behind its caption. -/
def captionEnd : String := " className=\"h-24 rounded object-cover\" />\x7d</dd>"

theorem emptyTag_imageElement (f : Field) (v : String) :
    (imageElement f v).emptyTag = "<img src=\x7b" ++ v ++ "\x7d alt=" ++ literal f.title
      ++ " className=\"h-24 rounded object-cover\" />" := by
  have hsource : (attrCode "src" v).source = "src=" ++ ("\x7b" ++ v ++ "\x7d") := rfl
  have hcaption : (⟨"alt", .literal f.title⟩ : Attribute).source = "alt=" ++ literal f.title := rfl
  have hclasses : (classes "h-24 rounded object-cover").source =
      "className=\"h-24 rounded object-cover\"" := by
    decide
  have hstart : "<img src=\x7b" = "<" ++ ("img" ++ (" " ++ ("src=" ++ "\x7b"))) := rfl
  have hmiddle : "\x7d alt=" = "\x7d" ++ (" " ++ "alt=") := rfl
  have hend : " className=\"h-24 rounded object-cover\" />" =
      " " ++ ("className=\"h-24 rounded object-cover\"" ++ " />") := rfl
  simp only [imageElement, Element.emptyTag, Element.head, List.map_cons, List.map_nil, hsource,
    hcaption, hclasses, hstart, hmiddle, hend, String.intercalate_cons_cons,
    String.intercalate_singleton, String.append_assoc]

/-- The value of an image has its title, as a literal, between two other attributes. -/
theorem text_shownValue {f : Field} (h : f.widget = .image) :
    (shownValue f).content.text = captionStart f ++ literal f.title ++ captionEnd := by
  have hvalue : shownValue f = details "col-span-2" (braced (member "selectedItem" f.name ++ " && "
      ++ (imageElement f (member "selectedItem" f.name)).emptyTag)) := by
    simp only [shownValue, h]
  have hopening : Element.openingTag ⟨"dd", [classes "col-span-2"]⟩ =
      "<dd className=\"col-span-2\">" := by
    decide
  have hclosing : Element.closingTag ⟨"dd", [classes "col-span-2"]⟩ = "</dd>" := by decide
  have hstart : "<dd className=\"col-span-2\">\x7b" = "<dd className=\"col-span-2\">" ++ "\x7b" :=
    rfl
  have hmiddle : " && <img src=\x7b" = " && " ++ "<img src=\x7b" := rfl
  have hend : captionEnd =
      " className=\"h-24 rounded object-cover\" />" ++ ("\x7d" ++ "</dd>") := by
    decide
  rw [hvalue, hend]
  unfold details around Source.Content.text captionStart
  dsimp only
  rw [hopening, hclosing, braced, emptyTag_imageElement, hstart, hmiddle]
  simp only [String.append_assoc]

/-- The dialog that shows a record has a line for the value of each field. -/
theorem content_shownValue_mem {e : Entity} {f : Field} (hf : f ∈ e.fields) :
    (shownValue f).content ∈ (viewDialog e).lines.map Line.content := by
  have hrow : (shownValue f).content ∈ (detailRow (label f) (shownValue f)).map Line.content := by
    simp [detailRow, division]
  have hlist : (shownValue f).content ∈ (detailList e).map Line.content := by
    have hrows : (shownValue f).content ∈
        (e.fields.flatMap fun f => detailRow (label f) (shownValue f)).map Line.content := by
      rw [List.map_flatMap]
      exact List.mem_flatMap.mpr ⟨f, hf, hrow⟩
    simp only [detailList, map_content_element, List.map_append, List.mem_cons, List.mem_append,
      hrows, true_or, or_true]
  have hdialog : (shownValue f).content ∈ (dialog (e.naming.singular ++ " Details") .narrow
      (detailList e ++ closeRow)).map Line.content := by
    simp only [dialog, division, map_content_block, map_content_element, List.map_append,
      List.mem_cons, List.mem_append, hlist, true_or, or_true]
  exact content_mem_of_main (f := viewDialog e) rfl (List.mem_of_getElem? (i := 3) rfl) hdialog

/-- Whether the text behind the name of the attribute is read as the title, and goes on after it. -/
def CaptionSurvives (named? : List Char → Option Char) (f : Field) : Prop :=
  ∃ rest, readAttribute? named? (literal f.title ++ captionEnd).toList =
    some (f.title.toList, rest) ∧ " className=".toList <+: rest

/-- **The caption is read as the title** if nothing in it is escaped and nothing is a reference. -/
theorem captionSurvives_iff {named? : List Char → Option Char} {f : Field} :
    CaptionSurvives named? f ↔ (∀ c ∈ f.title.toList, c ∉ escapedChars) ∧
      decodeReferences named? f.title.toList = f.title.toList := by
  have hlist : (literal f.title ++ captionEnd).toList =
      literalChars f.title.toList ++ captionEnd.toList := by
    simp [literal]
  have hstart : " className=".toList <+: captionEnd.toList := by decide
  rw [CaptionSurvives, hlist, readAttribute?_literalChars_iff hstart]
  simp only [isPlain_iff]

end Slice

/-! ## Plans -/

/--
**What becomes of the captions of images.** The dialog that shows a record has a line for each image
with its caption between two other attributes, and the caption is read as the title of the field if
and only if nothing in the title is escaped and nothing in it is a reference to a character.
-/
theorem plan_captions {keys : NamingKeys} {text : String} {p : Plan}
    (h : plan keys text = .ok p) {f : Field} (hf : f ∈ p.entity.fields)
    (himage : f.widget = .image) (named? : List Char → Option Char) :
    p.artifacts = (files p.entity).map SliceFile.artifact ∧
      (∃ file ∈ files p.entity, file.part = .view ∧ ∃ l ∈ file.lines,
        l.text = l.margin ++ (captionStart f ++ literal f.title ++ captionEnd)) ∧
      (CaptionSurvives named? f ↔ (∀ c ∈ f.title.toList, c ∉ escapedChars) ∧
        decodeReferences named? f.title.toList = f.title.toList) := by
  refine ⟨(plan_eq_ok_iff.mp h).2, ?_, captionSurvives_iff⟩
  obtain ⟨l, hl, hcontent⟩ := List.mem_map.mp (content_shownValue_mem hf)
  refine ⟨_, mem_files_of_singleFile? (p := .view) rfl, rfl, l, hl, ?_⟩
  rw [Line.text, hcontent, text_shownValue himage]

/-- A schema with two images, one of which has a name with an apostrophe. -/
def imagesSchema : String :=
  "\x7b\"namingConvention\":\x7b\"Users_1_000___\":\"Posts\",\"users_2_000___\":\"posts\","
    ++ "\"User_3_000___\":\"Post\"\x7d,"
    ++ "\"fields\":[\x7b\"name\":\"photo\",\"type\":\"IMAGE\"\x7d,"
    ++ "\x7b\"name\":\"it's\",\"type\":\"IMAGE\"\x7d]\x7d"

theorem titles_imagesSchema :
    ∃ p, plan {} imagesSchema = .ok p ∧
      (∃ f ∈ p.entity.fields, f.widget = .image ∧ f.title = "Photo") ∧
      ∃ f ∈ p.entity.fields, f.widget = .image ∧ f.title = "It's" := by
  let look (e : Entity) := (e.fields.any fun f => f.widget = .image && f.title = "Photo") &&
    e.fields.any fun f => f.widget = .image && f.title = "It's"
  obtain ⟨p, hp, hlook⟩ : ∃ p, plan {} imagesSchema = .ok p ∧ look p.entity = true := by
    apply exists_plan_of_chars
    · unfold imagesSchema
      iterate 3 apply toList_append_eq String.toList_ofList
      exact String.toList_ofList
    · decide +kernel
  refine ⟨p, hp, ?_⟩
  simpa [look] using hlook

/-- References by name to the ampersand alone. -/
def ampersand? (name : List Char) : Option Char :=
  if name = ['a', 'm', 'p'] then some '&' else none

/-- One of the captions survives, the other does not. -/
theorem plan_captions_imagesSchema :
    ∃ p, plan {} imagesSchema = .ok p ∧
      (∃ f ∈ p.entity.fields, f.title = "Photo" ∧ CaptionSurvives ampersand? f) ∧
      ∃ f ∈ p.entity.fields, f.title = "It's" ∧ ¬CaptionSurvives ampersand? f := by
  obtain ⟨p, hp, ⟨f, hf, hfimage, hftitle⟩, g, hg, hgimage, hgtitle⟩ := titles_imagesSchema
  refine ⟨p, hp, ⟨f, hf, hftitle, ?_⟩, g, hg, hgtitle, ?_⟩
  · refine (plan_captions hp hf hfimage ampersand?).2.2.mpr ?_
    rw [hftitle]
    exact ⟨by simp [escapedChars], decodeReferences_of_notMem (by decide)⟩
  · intro hsurvives
    have hplain := ((plan_captions hp hg hgimage ampersand?).2.2.mp hsurvives).1
    rw [hgtitle] at hplain
    exact hplain '\'' (by decide) (by decide)

/-- **Not every caption survives**, whatever names references have. -/
theorem exists_caption_lost :
    ¬∀ (keys : NamingKeys) (text : String) (p : Plan), plan keys text = .ok p →
      ∀ f ∈ p.entity.fields, f.widget = .image →
        ∃ named? : List Char → Option Char, CaptionSurvives named? f := by
  intro hall
  obtain ⟨p, hp, -, f, hf, himage, htitle⟩ := titles_imagesSchema
  obtain ⟨named?, hsurvives⟩ := hall {} imagesSchema p hp f hf himage
  have hplain := (captionSurvives_iff.mp hsurvives).1
  rw [htitle] at hplain
  exact hplain '\'' (by decide) (by decide)

end EntitySlice
