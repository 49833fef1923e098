import SnippetCoach.Json.Value
/-! Feedback: a summary, concepts to learn, questions to think about and the next steps. -/
namespace SnippetCoach

structure TeachingPoint where
  concept : String
  explanation : String
  example? : Option String
  deriving DecidableEq, Repr

structure Feedback where
  summary : String
  teaching : List TeachingPoint
  questions : List String
  nextSteps : List String
  deriving DecidableEq, Repr

/-- A point without an example has no field for it. -/
def TeachingPoint.toJson (point : TeachingPoint) : Json :=
  .ofFields
    [("concept", some (.str point.concept)),
      ("explanation", some (.str point.explanation)),
      ("example", point.example?.map .str)]

def Feedback.toJson (feedback : Feedback) : Json :=
  .obj
    [("summary", .str feedback.summary),
      ("teaching", .arr (feedback.teaching.map TeachingPoint.toJson)),
      ("questions", .arr (feedback.questions.map .str)),
      ("next_steps", .arr (feedback.nextSteps.map .str))]

end SnippetCoach
