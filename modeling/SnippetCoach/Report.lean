import SnippetCoach.Analysis
/-! Reports as text: issues grouped by severity, feedback by sections. An issue that holds a whole
number of too many digits has none. -/
namespace SnippetCoach
open Number

def joinLines (parts : List String) : String :=
  "\n".intercalate parts

namespace Issue

/-- Two lines: what and where, then why. A line that is an empty value is unknown. -/
def text (issue : Issue) : String :=
  let place := if issue.line.isEmptyValue then "unknown line" else "line " ++ issue.line.display
  "- **" ++ issue.severity.heading ++ "** [" ++ issue.type.tag ++ "] " ++
    issue.message.display ++ " (" ++ place ++ ")\n  " ++ issue.explanation.display

def isWritable (issue : Issue) : Bool :=
  issue.message.isWritable && issue.explanation.isWritable && issue.line.isWritable

def text? (issue : Issue) : Except ArithmeticError String :=
  if issue.isWritable then .ok issue.text else .error .integerTooLong

/-- Puts an issue behind those of its severity. -/
def putBySeverity (groups : OrderedMap (List Issue)) (issue : Issue) : OrderedMap (List Issue) :=
  groups.set issue.severity.tag ((groups.get? issue.severity.tag).getD [] ++ [issue])

def bySeverity (issues : List Issue) : OrderedMap (List Issue) :=
  issues.foldl putBySeverity ∅

/-- The issues of one severity under their heading; no heading without issues. -/
def groupText (groups : OrderedMap (List Issue)) (severity : Severity) : List String :=
  match groups.get? severity.tag with
  | none => []
  | some group =>
    ("\n### " ++ severity.heading ++ " (" ++ toString group.length ++ ") [" ++ severity.colour ++
      "]\n") :: group.map text

/-- All issues, from the most severe to the least; those of one severity keep their order. -/
def listText (issues : List Issue) : String :=
  joinLines ("## Issues Found\n" :: Severity.all.flatMap (groupText (bySeverity issues)))

def listText? (issues : List Issue) : Except ArithmeticError String :=
  if issues.all isWritable then .ok (listText issues) else .error .integerTooLong

end Issue

/-- The concept with its explanation, and the example unless it is empty. -/
def TeachingPoint.text (point : TeachingPoint) : List String :=
  ("- **" ++ point.concept ++ "**: " ++ point.explanation) ::
    (point.example?.toList.filter fun sample => !sample.isEmpty).map ("  Example: " ++ ·)

namespace Feedback

/-- The lines of a section after an empty line and a heading; nothing if there are none. -/
def sectionText (heading : String) (body : List String) : List String :=
  if body.isEmpty then [] else "" :: ("### " ++ heading) :: body

/-- Steps numbered from a number on. -/
def numbered : Nat → List String → List String
  | _, [] => []
  | number, step :: rest => (toString number ++ ". " ++ step) :: numbered (number + 1) rest

def text (feedback : Feedback) : String :=
  joinLines
    (["## Feedback", "", feedback.summary] ++
      sectionText "Key Concepts" (feedback.teaching.flatMap TeachingPoint.text) ++
      sectionText "Think About It" (feedback.questions.map ("- " ++ ·)) ++
      sectionText "Next Steps" (numbered 1 feedback.nextSteps))

end Feedback

namespace Analysis

def text (analysis : Analysis) : String :=
  joinLines
    ["# Code Mentor Report (" ++ analysis.languageName ++ ", " ++ analysis.skillLevel ++ ")\n",
      Issue.listText analysis.issues, "", analysis.feedback.text]

def text? (analysis : Analysis) : Except ArithmeticError String :=
  if analysis.issues.all Issue.isWritable then .ok analysis.text else .error .integerTooLong

end Analysis

end SnippetCoach
