import SnippetCoach.Rule.Finding
import SnippetCoach.Text.Lines
import SnippetCoach.Text.Word
/-! Rules on loops. -/
namespace SnippetCoach.Rule
open Text

/-- An endless loop without a break anywhere in the text. -/
def infiniteLoop (code : List Char) : List Finding :=
  Finding.onlyIf (mentions code "while True" && !mentions code "break")
    .infiniteLoop (findLine code ["while True".toList])

/-- The text calls `range` with one word. -/
def callsRange (text : List Char) : Bool :=
  anySuffix (startsCall "range".toList) text

/-- The first line that calls `range` with one word. -/
def offByOne (code : List Char) : List Finding :=
  Finding.onlyIf (callsRange code) .offByOne (firstLineWhere callsRange code)

end SnippetCoach.Rule
