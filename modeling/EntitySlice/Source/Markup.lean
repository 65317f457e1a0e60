import EntitySlice.Source.Literal

/-!
# Markup in generated code

Elements with their attributes, and text between tags. The characters that markup takes for its own
are written as references in text; `decodeText` resolves exactly these references, so no text can
be mistaken for markup.
-/

namespace EntitySlice.Source

/-! ## Text -/

/-- One character of text between tags. -/
def markupChar (c : Char) : List Char :=
  if c = '&' then ['&', 'a', 'm', 'p', ';']
  else if c = '<' then ['&', 'l', 't', ';']
  else if c = '>' then ['&', 'g', 't', ';']
  else if c = '\x7b' then ['&', '#', '1', '2', '3', ';']
  else if c = '\x7d' then ['&', '#', '1', '2', '5', ';']
  else [c]

/-- Text between tags. -/
def markupChars (cs : List Char) : List Char :=
  cs.flatMap markupChar

/-- Text between tags. -/
def markupText (s : String) : String :=
  String.ofList (markupChars s.toList)

/-- The text that markup shows: the five references that are written stand for their characters. -/
def decodeText : List Char → List Char
  | [] => []
  | '&' :: 'a' :: 'm' :: 'p' :: ';' :: rest => '&' :: decodeText rest
  | '&' :: 'l' :: 't' :: ';' :: rest => '<' :: decodeText rest
  | '&' :: 'g' :: 't' :: ';' :: rest => '>' :: decodeText rest
  | '&' :: '#' :: '1' :: '2' :: '3' :: ';' :: rest => '\x7b' :: decodeText rest
  | '&' :: '#' :: '1' :: '2' :: '5' :: ';' :: rest => '\x7d' :: decodeText rest
  | c :: rest => c :: decodeText rest

/-- Markup shows the text it was written for. -/
theorem decodeText_markupChars (cs : List Char) : decodeText (markupChars cs) = cs := by
  induction cs with
  | nil => rfl
  | cons c cs ih =>
    simp only [markupChars, List.flatMap_cons] at ih ⊢
    by_cases h1 : c = '&'
    · subst h1; simp [markupChar, decodeText, ih]
    by_cases h2 : c = '<'
    · subst h2; simp [markupChar, decodeText, ih]
    by_cases h3 : c = '>'
    · subst h3; simp [markupChar, decodeText, ih]
    by_cases h4 : c = '\x7b'
    · subst h4; simp [markupChar, decodeText, ih]
    by_cases h5 : c = '\x7d'
    · subst h5; simp [markupChar, decodeText, ih]
    · simp [markupChar, decodeText, h1, h2, h3, h4, h5, ih]

/-! ## Elements -/

/-- An expression in braces. -/
def braced (code : String) : String :=
  "\x7b" ++ code ++ "\x7d"

/-- The value of an attribute. -/
inductive AttributeValue
  /-- A text in double quotes, as it is. -/
  | text (s : String)
  /-- An expression. -/
  | code (expression : String)
  /-- A text that ends in the number of the row that the element is in. -/
  | numbered (stem : String)
  /-- A text as a string literal of the code, in the place of an attribute text. -/
  | literal (s : String)
  /-- No value: the attribute is there. -/
  | present
  deriving DecidableEq, Repr

/-- The value as it is written. -/
def AttributeValue.source : AttributeValue → String
  | .text s => "\"" ++ s ++ "\""
  | .code expression => braced expression
  | .numbered stem => braced ("`" ++ stem ++ r"-${index}`")
  | .literal s => Source.literal s
  | .present => ""

/-- An attribute of an element. -/
structure Attribute where
  name : String
  value : AttributeValue
  deriving DecidableEq, Repr

/-- The attribute as it is written. -/
def Attribute.source (a : Attribute) : String :=
  match a.value with
  | .present => a.name
  | v => a.name ++ "=" ++ v.source

/-- An element without what is in it. -/
structure Element where
  tag : String
  attributes : List Attribute
  deriving DecidableEq, Repr

namespace Element

/-- The value of an attribute. -/
def get? (e : Element) (name : String) : Option AttributeValue :=
  (e.attributes.find? (·.name = name)).map (·.value)

/-- The start of a tag. -/
def head (e : Element) : String :=
  "<" ++ " ".intercalate (e.tag :: e.attributes.map Attribute.source)

/-- The tag before what is in the element. -/
def openingTag (e : Element) : String := e.head ++ ">"

/-- The tag after what is in the element. -/
def closingTag (e : Element) : String := "</" ++ e.tag ++ ">"

/-- The tag of an element with nothing in it. -/
def emptyTag (e : Element) : String := e.head ++ " />"

end Element

end EntitySlice.Source
