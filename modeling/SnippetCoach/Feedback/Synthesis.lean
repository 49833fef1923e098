import SnippetCoach.Feedback.Lesson
import SnippetCoach.Issue.Basic
import SnippetCoach.Tag.Given
/-! Feedback made from issues: what they teach, in their order, under a summary of how severe they
are. -/
namespace SnippetCoach
open Number

namespace Issue

/-- The lessons of an issue, one for each of its kinds that has a fitting one. -/
def lessons (beginner : Bool) (issue : Issue) : Except IssueError (List Lesson) :=
  issue.kinds.map fun kinds => kinds.filterMap (·.lessonFor? beginner issue.type)

end Issue

namespace Feedback

def success (beginner : Bool) : Feedback :=
  { summary :=
      if beginner then "Great work! Your code looks solid. Keep practicing!"
      else "Code structure is sound. Consider edge cases and optimization."
    teaching := []
    questions := []
    nextSteps :=
      ["Test your code with various inputs",
        "Think about edge cases (empty input, very large numbers, etc.)",
        "Consider time and space complexity"] }

def logicSteps : List String :=
  ["Fix the logical issues identified above",
    "Test your code with edge cases",
    "Add comments explaining your logic"]

def generalSteps : List String :=
  ["Run your code with test cases",
    "Consider code readability and style",
    "Think about performance optimization"]

/-- The summary for a count of issues of high severity. -/
def summaryFor (high : Nat) (beginner : Bool) : String :=
  if high = 0 then "Your code runs, but there are some improvements we can make."
  else
    let issues := toString high ++ (if 1 < high then " critical issues" else " critical issue")
    if beginner then
      "I found " ++ issues ++ " that will prevent your code from running correctly. " ++
        "Let's work through them together!"
    else issues ++ " detected. Review the base cases and control flow."

/-- A first issue of the success type stands for code without issues. -/
def synthesize (issues : List Issue) (beginner : Bool) : Except IssueError Feedback :=
  if issues.head?.any (·.type == .success) then .ok (success beginner)
  else
    (issues.mapM (Issue.lessons beginner)).map fun lessons =>
      { summary := summaryFor (issues.countP (·.severity == .high)) beginner
        teaching := lessons.flatten.map Lesson.point
        questions := lessons.flatten.filterMap Lesson.question?
        nextSteps := if issues.any (·.type == .logic) then logicSteps else generalSteps }

end Feedback

/-- Why there is no feedback: the text of a tag, or an issue without a lesson. -/
inductive FeedbackError where
  | tag (e : ArithmeticError)
  | issue (e : IssueError)

def FeedbackError.message : FeedbackError → String
  | tag e => e.message
  | issue e => e.message

/-- The feedback for a learner. The skill level is looked at first. -/
def Feedback.forLearner (issues : List Issue) (skillLevel : GivenTag) :
    Except FeedbackError Feedback := do
  let beginner ← skillLevel.isBeginner?.mapError .tag
  (synthesize issues beginner).mapError .issue

end SnippetCoach
