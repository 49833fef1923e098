import SnippetCoach.Feedback.Basic
import SnippetCoach.Issue.Document
import SnippetCoach.Tag.Language
/-! The result of one analysis. -/
namespace SnippetCoach

/-- The time is in milliseconds. -/
structure Analysis where
  issues : List Issue
  feedback : Feedback
  language : String
  skillLevel : String
  timestamp : Int

namespace Analysis

/-- The name of the language; a tag that is none of a language names itself. -/
def languageName (analysis : Analysis) : String :=
  ((Language.ofTag? analysis.language).map Language.displayName).getD analysis.language

def issueTypes (analysis : Analysis) : List IssueType :=
  analysis.issues.map Issue.type

def toJson (analysis : Analysis) : Json :=
  .obj
    [("language", .str analysis.language),
      ("skill_level", .str analysis.skillLevel),
      ("timestamp", .int analysis.timestamp),
      ("issues", .arr (analysis.issues.map Issue.toJson)),
      ("feedback", analysis.feedback.toJson)]

end Analysis
end SnippetCoach
