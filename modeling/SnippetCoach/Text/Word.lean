import SnippetCoach.Text.Blank
/-! Words are maximal runs of ASCII letters, digits and underscores. -/
namespace SnippetCoach.Text

def isWordChar (c : Char) : Bool :=
  c.isAlphanum || c == '_'

def words : List Char → List (List Char)
  | [] => []
  | c :: rest =>
    if isWordChar c then
      (c :: rest.takeWhile isWordChar) :: words (rest.dropWhile isWordChar)
    else words rest
termination_by text => text.length
decreasing_by
  · have := (List.dropWhile_suffix (l := rest) isWordChar).length_le
    simp only [List.length_cons]
    omega
  · simp

def countWord (word text : List Char) : Nat :=
  (words text).count word

/-- A call whose one argument is a word: the name, a parenthesis, the word, a parenthesis. -/
def startsCall (name text : List Char) : Bool :=
  match name.isPrefixOf? text with
  | some ('(' :: rest) =>
    !(rest.takeWhile isWordChar).isEmpty && (rest.dropWhile isWordChar).head? == some ')'
  | _ => false

/-- A word that is indexed by a word in square brackets. -/
def startsIndexing (text : List Char) : Bool :=
  !(text.takeWhile isWordChar).isEmpty &&
    match text.dropWhile isWordChar with
    | '[' :: rest =>
      !(rest.takeWhile isWordChar).isEmpty && (rest.dropWhile isWordChar).head? == some ']'
    | _ => false

/-- A type name, white space, one word and a semicolon: a declaration without a value. -/
def startsBareDeclaration (type text : List Char) : Bool :=
  match type.isPrefixOf? text with
  | some rest =>
    let name := rest.dropWhile isAsciiSpace
    !(rest.takeWhile isAsciiSpace).isEmpty && !(name.takeWhile isWordChar).isEmpty &&
      (name.dropWhile isWordChar).head? == some ';'
  | none => false

end SnippetCoach.Text
