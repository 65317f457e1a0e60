import EntitySlice.Source.Line

/-!
# Source files

A source file is a list of sections with an empty line between them; a section is a list of items:
a directive, a comment, an import or a declaration. An item knows the names it binds in its module,
and its first line is written from these names. The text of a file is the text of its lines.
-/

namespace EntitySlice.Source

/-- An import statement. -/
structure Import where
  /-- The name that the default export of the module gets here. -/
  default? : Option String := none
  /-- The names that are imported as they are. -/
  names : List String := []
  /-- The module. -/
  source : String
  /-- Whether each name has a line of its own. -/
  tall : Bool := false
  deriving DecidableEq, Repr

namespace Import

/-- An import of the default export. -/
def byDefault (name source : String) : Import := { default? := some name, source }

/-- An import of names. -/
def named (names : List String) (source : String) : Import := { names, source }

/-- The names that the import binds. -/
def binds (i : Import) : List String :=
  i.default?.toList ++ i.names

/-- What stands between `import` and `from`. -/
def clause (i : Import) : String :=
  ", ".intercalate (i.default?.toList ++ if i.names.isEmpty then [] else [inBraces i.names])

/-- The import as it is written. -/
def lines (i : Import) : List Line :=
  if i.tall then
    block "import \x7b" (i.names.map fun n => Line.code (n ++ ","))
      ("\x7d from '" ++ i.source ++ "';")
  else if i.binds.isEmpty then [Line.code ("import '" ++ i.source ++ "';")]
  else [Line.code ("import " ++ i.clause ++ " from '" ++ i.source ++ "';")]

end Import

/-- What is declared after its name: the rest of the first line, lines inside, a last line. -/
structure Definition where
  first : String
  body : List Line := []
  last? : Option String := none
  deriving DecidableEq, Repr

/-- The lines of a definition after `lead`. -/
def Definition.lines (lead : String) (d : Definition) : List Line :=
  Line.code (lead ++ d.first) :: nest d.body ++ d.last?.toList.map Line.code

/-- A statement at the top of a module. -/
inductive Declaration
  /-- A constant. -/
  | const (exported : Bool) (name : String) (definition : Definition)
  /-- Constants for the members of a value. -/
  | members (names : List String) (source : String)
  /-- A name for a type. -/
  | type (exported : Bool) (name definition : String)
  /-- An interface with its properties. -/
  | interface (exported : Bool) (name : String) (properties : List Line)
  /-- The function that the module is for. -/
  | main (name parameters : String) (body : List Line)
  /-- A function that answers requests of one method. -/
  | handler (name parameters : String) (body : List Line)
  /-- The value that the module is for. -/
  | value (expression : String)
  /-- A statement that declares nothing. -/
  | effect (statement : String)
  deriving DecidableEq, Repr

namespace Declaration

/-- The word before an exported declaration. -/
def exportWord (exported : Bool) : String :=
  if exported then "export " else ""

/-- The names that the declaration binds. -/
def binds : Declaration → List String
  | const _ name _ | type _ name _ | interface _ name _ | main name _ _ | handler name _ _ => [name]
  | members names _ => names
  | value _ | effect _ => []

/-- The declaration as it is written. -/
def lines : Declaration → List Line
  | const exported name definition =>
    definition.lines (exportWord exported ++ "const " ++ name)
  | members names source =>
    block "export const \x7b" (names.map fun n => Line.code (n ++ ",")) ("\x7d = " ++ source ++ ";")
  | type exported name definition =>
    [Line.code (exportWord exported ++ "type " ++ name ++ " = " ++ definition ++ ";")]
  | interface exported name properties =>
    block (exportWord exported ++ "interface " ++ name ++ " \x7b") properties "\x7d"
  | main name parameters body =>
    block ("export default function " ++ name ++ "(" ++ parameters ++ ") \x7b") body "\x7d"
  | handler name parameters body =>
    block ("export async function " ++ name ++ "(" ++ parameters ++ ") \x7b") body "\x7d"
  | value expression => [Line.code ("export default " ++ expression ++ ";")]
  | effect statement => [Line.code statement]

end Declaration

/-- A part of a section. -/
inductive Item
  /-- A word to the tools that read the file. -/
  | directive (text : String)
  | comment (text : String)
  | imported (i : Import)
  | declared (d : Declaration)
  deriving DecidableEq, Repr

instance : Coe Import Item := ⟨.imported⟩
instance : Coe Declaration Item := ⟨.declared⟩

namespace Item

/-- The names that the item binds in its module. -/
def binds : Item → List String
  | directive _ | comment _ => []
  | imported i => i.binds
  | declared d => d.binds

/-- The import that the item is. -/
def import? : Item → Option Import
  | imported i => some i
  | _ => none

/-- The declaration that the item is. -/
def declaration? : Item → Option Declaration
  | declared d => some d
  | _ => none

/-- The item as it is written. -/
def lines : Item → List Line
  | directive text => [Line.code ("'" ++ text ++ "';")]
  | comment text => [Line.code ("// " ++ text)]
  | imported i => i.lines
  | declared d => d.lines

end Item

/-- A source file. -/
structure File where
  sections : List (List Item)
  deriving DecidableEq, Repr

namespace File

/-- The items of a file, in order. -/
def items (f : File) : List Item := f.sections.flatten

/-- The imports of a file, in order. -/
def imports (f : File) : List Import := f.items.filterMap Item.import?

/-- The declarations of a file, in order. -/
def declarations (f : File) : List Declaration := f.items.filterMap Item.declaration?

/-- The names that a file binds at its top level. -/
def binds (f : File) : List String := f.items.flatMap Item.binds

/-- The lines of a file. -/
def lines (f : File) : List Line :=
  paragraphs (f.sections.map fun s => s.flatMap Item.lines)

/-- The elements in a file, in the order of their lines. -/
def elements (f : File) : List Element := elementsOf f.lines

/-- The text of a file. -/
def text (f : File) : String := linesText f.lines

end File

end EntitySlice.Source
