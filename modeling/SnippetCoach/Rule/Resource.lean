import SnippetCoach.Rule.Finding
import SnippetCoach.Text.Lines
/-! Rules on objects: member access without a check, resources that are not disposed, and handlers
that catch everything. -/
namespace SnippetCoach.Rule
open Text

/-- A member access in a text without `if` and without a null-conditional access. -/
def nullReference (code : List Char) : List Finding :=
  Finding.onlyIf (mentions code "." && !mentions code "if" && !mentions code "?.")
    .nullReference 1

/-- A reader or a stream built in a text without `using`. -/
def undisposedResource (code : List Char) : List Finding :=
  Finding.onlyIf
    ((mentions code "new StreamReader" || mentions code "new FileStream") &&
      !mentions code "using")
    .undisposedResource (findLine code ["StreamReader".toList, "FileStream".toList])

/-- A handler for every exception. -/
def genericCatch (code : List Char) : List Finding :=
  Finding.onlyIf (mentions code "catch (Exception")
    .genericCatch (findLine code ["catch (Exception".toList])

end SnippetCoach.Rule
