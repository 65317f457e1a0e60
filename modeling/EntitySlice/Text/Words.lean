import EntitySlice.Text.CaseMapping
import EntitySlice.Text.Cluster

/-!
# Words inside names

Names come as `first_name`, `firstName`, `First Name` or `HTMLPage2`. They are cut into words where
a separator stands or the kind of letter changes, and put together again as a camel-case,
Pascal-case or title-case name. The cut looks at grapheme clusters, so that an accent written as a
mark of its own does not end a word.
-/

namespace EntitySlice.Text

/-- What a cluster is for the cut into words. -/
inductive LetterKind
  /-- It has two forms and stands in its upper-case form. -/
  | upper
  /-- It has two forms and stands in its lower-case form. -/
  | lower
  /-- It consists of ASCII digits. -/
  | digit
  /-- It ends a word and belongs to none. -/
  | separator
  | other
  deriving DecidableEq, Repr

/-- The kind of a cluster. -/
def LetterKind.of (g : List Char) : LetterKind :=
  if g = ['_'] || g = ['-'] || g = [' '] then .separator
  else if g.all Char.isDigit then .digit
  else
    let up := upperChars g
    let down := lowerChars g
    if up = down then .other
    else if g = up then .upper
    else if g = down then .lower
    else .other

/-- Whether a word starts at `b`, which stands after `a` and before `next?`. -/
def LetterKind.startsWord (a b : LetterKind) (next? : Option LetterKind) : Bool :=
  match a, b with
  | .lower, .upper => true
  | .upper, .digit | .digit, .upper => true
  | .lower, .digit | .digit, .lower => true
  | .upper, .upper => next? = some .lower
  | _, _ => false

/--
The words of clusters that follow one of kind `last?`; `current`, last character first, is the word
begun before them.
-/
def wordsAfter (current : List Char) (last? : Option LetterKind) :
    List (List Char × LetterKind) → List (List Char)
  | [] => [current.reverse]
  | (g, kind) :: rest =>
    if kind = .separator then current.reverse :: wordsAfter [] (some kind) rest
    else if last?.any fun last => last.startsWord kind (rest.head?.map Prod.snd) then
      current.reverse :: wordsAfter g.reverse (some kind) rest
    else wordsAfter (g.reverse ++ current) (some kind) rest

/-- The words of a name, in order; none is empty. -/
def words (cs : List Char) : List (List Char) :=
  (wordsAfter [] none ((clusters cs).map fun g => (g, LetterKind.of g))).filter fun w => !w.isEmpty

/-- A word with its first character in upper case and the others in lower case. -/
def capitalizeWord : List Char → List Char
  | [] => []
  | c :: rest => upperChar c ++ lowerChars rest

/-- `blog posts` as `blogPosts`. -/
def camelChars (cs : List Char) : List Char :=
  match words cs with
  | [] => []
  | w :: ws => lowerChars w ++ ws.flatMap capitalizeWord

/-- `blog posts` as `BlogPosts`. -/
def pascalChars (cs : List Char) : List Char :=
  (words cs).flatMap capitalizeWord

/-- `blog_posts` as `Blog Posts`. -/
def titleChars (cs : List Char) : List Char :=
  [' '].intercalate ((words cs).map capitalizeWord)

/-- The camel-case form of a name. -/
def camelCase (s : String) : String :=
  String.ofList (camelChars s.toList)

/-- The Pascal-case form of a name. -/
def pascalCase (s : String) : String :=
  String.ofList (pascalChars s.toList)

/-- The words of a name as a reader sees them in a form or a table. -/
def titleCase (s : String) : String :=
  String.ofList (titleChars s.toList)

end EntitySlice.Text
