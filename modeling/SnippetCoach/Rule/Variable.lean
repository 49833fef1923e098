import SnippetCoach.Rule.Assignment
import SnippetCoach.Rule.Finding
import SnippetCoach.Text.Lines
/-! The rule on variables that are assigned and never named again. -/
namespace SnippetCoach.Rule
open Text

/-- The name is the only word of its kind in the text, and not the underscore that marks a value
as unwanted. -/
def isUnused (code name : List Char) : Bool :=
  name != ['_'] && countWord name code == 1

/-- The unused assignments of a text, in order. -/
def unusedAssignments (code : List Char) : List Assignment :=
  (Assignment.scan code).filter fun assignment => isUnused code assignment.name

/-- One finding for each unused assignment. Its line is the first that contains the text of the
assignment, and 0 for one that spans lines. -/
def unusedVariable (code : List Char) : List Finding :=
  (unusedAssignments code).map fun assignment =>
    { kind := .unusedVariable
      line := findLine code [assignment.text]
      message := RuleKind.message .unusedVariable (String.ofList assignment.name) }

end SnippetCoach.Rule
