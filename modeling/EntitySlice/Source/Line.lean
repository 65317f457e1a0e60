import EntitySlice.Source.Markup

/-!
# Lines of generated code

Generated code is a list of lines. A line knows how far it is indented and whether it is code or
the tag of an element, so that the elements of a file can be looked at without reading its text.
Blocks and elements are built from the lines inside them.
-/

namespace EntitySlice.Source

/-- What stands on a line. -/
inductive Content
  /-- Nothing, whatever the indentation. -/
  | blank
  /-- Code or text. -/
  | code (text : String)
  /-- The tag before the lines in an element. -/
  | opening (e : Element)
  /-- The tag after the lines in an element. -/
  | closing (e : Element)
  /-- An element with nothing in it. -/
  | leaf (e : Element)
  /-- An element with what is in it. -/
  | around (e : Element) (text : String)
  deriving DecidableEq, Repr

/-- The characters of a line after the indentation. -/
def Content.text : Content → String
  | .blank => ""
  | .code text => text
  | .opening e => e.openingTag
  | .closing e => e.closingTag
  | .leaf e => e.emptyTag
  | .around e text => e.openingTag ++ text ++ e.closingTag

/-- The element that starts on the line. -/
def Content.element? : Content → Option Element
  | .blank | .code _ | .closing _ => none
  | .opening e | .leaf e | .around e _ => some e

/-- A line with its indentation in spaces. -/
structure Line where
  indentation : Nat
  content : Content
  deriving DecidableEq, Repr

namespace Line

/-- A line of code. -/
def code (text : String) : Line := ⟨0, .code text⟩

/-- An empty line. -/
def blank : Line := ⟨0, .blank⟩

/-- The spaces before the content; an empty line has none. -/
def margin (l : Line) : String :=
  match l.content with
  | .blank => ""
  | _ => String.ofList (List.replicate l.indentation ' ')

/-- The line as it is written, without its end. -/
def text (l : Line) : String :=
  l.margin ++ l.content.text

end Line

/-- Lines of code; an empty text stands for an empty line. -/
def code (texts : List String) : List Line :=
  texts.map fun s => if s = "" then Line.blank else Line.code s

/-- Groups of lines with an empty line between them. -/
def paragraphs (groups : List (List Line)) : List Line :=
  [Line.blank].intercalate groups

/-- The lines `n` spaces further in. -/
def indentBy (n : Nat) (lines : List Line) : List Line :=
  lines.map fun l => ⟨n + l.indentation, l.content⟩

/-- The lines one level further in. -/
def nest (lines : List Line) : List Line :=
  indentBy 2 lines

/-- Lines between an opening and a closing line. -/
def block (first : String) (body : List Line) (last : String) : List Line :=
  Line.code first :: nest body ++ [Line.code last]

/-- An element with lines in it. -/
def element (e : Element) (body : List Line) : List Line :=
  ⟨0, .opening e⟩ :: nest body ++ [⟨0, .closing e⟩]

/-- An element with nothing in it, on one line. -/
def leaf (e : Element) : Line := ⟨0, .leaf e⟩

/-- An element with a text in it, on one line. -/
def around (e : Element) (text : String) : Line := ⟨0, .around e text⟩

/-- The elements that start on the lines. -/
def elementsOf (lines : List Line) : List Element :=
  lines.filterMap (·.content.element?)

/-- Lines as text: each one ends in a line feed. -/
def linesText (lines : List Line) : String :=
  String.join (lines.map fun l => l.text ++ "\n")

/-! ## Short names for frequent attributes -/

/-- The attribute with a text. -/
def attr (name text : String) : Attribute := ⟨name, .text text⟩

/-- The attribute with an expression. -/
def attrCode (name expression : String) : Attribute := ⟨name, .code expression⟩

/-- The attribute without a value. -/
def attrPresent (name : String) : Attribute := ⟨name, .present⟩

/-- The attribute for style classes. -/
def classes (names : String) : Attribute := attr "className" names

/-- What happens on a click. -/
def onClick (code : String) : Attribute := attrCode "onClick" code

/-- What happens on a change. -/
def onChange (code : String) : Attribute := attrCode "onChange" code

/-! ## Objects -/

/-- A member of an object expression. -/
inductive Member
  /-- A key with a value. -/
  | entry (key value : String)
  /-- A variable whose name is the key too. -/
  | shorthand (name : String)
  /-- All members of a value. -/
  | spread (value : String)
  deriving DecidableEq, Repr

/-- The member as it is written. -/
def Member.source : Member → String
  | .entry key value => key ++ ": " ++ value
  | .shorthand name => name
  | .spread value => "..." ++ value

/-- Texts in braces with commas between them, on one line. -/
def inBraces (items : List String) : String :=
  "\x7b " ++ ", ".intercalate items ++ " \x7d"

/-- An object expression on one line. -/
def object (members : List Member) : String :=
  inBraces (members.map Member.source)

/-- Names for members of an object, and one for an object with the other members. -/
structure Pattern where
  names : List String
  rest? : Option String := none
  deriving DecidableEq, Repr

/-- The pattern as it is written. -/
def Pattern.source (p : Pattern) : String :=
  inBraces (p.names ++ p.rest?.toList.map ("..." ++ ·))

/-- A member on a line of its own. -/
def memberLine (m : Member) : Line :=
  Line.code (m.source ++ ",")

/-- A property of an interface. -/
def propertyLine (key type : String) : Line :=
  Line.code (key ++ ": " ++ type ++ ";")

end EntitySlice.Source
