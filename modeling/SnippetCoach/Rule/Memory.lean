import SnippetCoach.Rule.Finding
import SnippetCoach.Text.Lines
import SnippetCoach.Text.Word
/-! Rules on memory: indexing without a check, allocation without release, and declarations
without a value. -/
namespace SnippetCoach.Rule
open Text

/-- A word indexed by a word, in a text without `if` and `while`. -/
def arrayBounds (code : List Char) : List Finding :=
  Finding.onlyIf
    (anySuffix startsIndexing code && !mentions code "if" && !mentions code "while")
    .arrayBounds 1

/-- An allocation in a text that releases nothing. -/
def memoryLeak (code : List Char) : List Finding :=
  Finding.onlyIf
    ((mentions code "malloc" || mentions code "new") &&
      !(mentions code "free" || mentions code "delete"))
    .memoryLeak (findLine code ["malloc".toList, "new".toList])

/-- A bare declaration of an `int` or a `float`. -/
def uninitializedVariable (code : List Char) : List Finding :=
  Finding.onlyIf
    (["int", "float"].any fun type => anySuffix (startsBareDeclaration type.toList) code)
    .uninitializedVariable 1

end SnippetCoach.Rule
