import SnippetCoach.Feedback.Basic
import SnippetCoach.Tag.Issue
/-! What to teach about an issue of a kind, for beginners and for all others. -/
namespace SnippetCoach

structure Lesson where
  point : TeachingPoint
  question? : Option String
  deriving DecidableEq, Repr

namespace Lesson

def recursiveBaseCases : Lesson :=
  { point :=
      { concept := "Recursive Base Cases"
        explanation :=
          "Every recursive function needs a base case - a condition where it stops calling " ++
            "itself. Your base case should handle ALL stopping conditions, not just one value."
        example? := some "For factorial, both 0! and 1! equal 1, so use: if n <= 1: return 1" }
    question? :=
      some "What would happen if someone calls factorial(0)? Walk through the steps." }

def edgeCaseHandling : Lesson :=
  { point :=
      { concept := "Edge Case Handling"
        explanation :=
          "Your base case needs to handle edge cases. Consider: what are all the valid inputs " ++
            "that should stop the recursion?"
        example? := some "n <= 1 covers both 0 and 1, preventing infinite recursion." }
    question? := none }

def loopTermination : Lesson :=
  { point :=
      { concept := "Loop Termination"
        explanation :=
          "Every loop needs a way to exit. Without a break statement or a condition that " ++
            "becomes false, your loop will run forever."
        example? :=
          some ("Add a break statement when a certain condition is met, or use a condition " ++
            "that will eventually become false.") }
    question? :=
      some ("Under what condition should this loop stop? How can you express that in code?") }

def memoryManagement : Lesson :=
  { point :=
      { concept := "Memory Management"
        explanation :=
          "In C/C++, memory you allocate must be manually freed. Failing to do so causes " ++
            "memory leaks."
        example? := some "int* ptr = new int[10]; // ... use it ... delete[] ptr;" }
    question? := some "Where in your code should you free the allocated memory?" }

def statementTerminators : Lesson :=
  { point :=
      { concept := "Statement Terminators"
        explanation :=
          "In C/C++/Java/C#, most statements end with a semicolon. It tells the compiler where " ++
            "one statement ends and another begins."
        example? := some "int x = 5; // semicolon required" }
    question? := none }

def nullSafety : Lesson :=
  { point :=
      { concept := "Null Safety"
        explanation :=
          "In C#, accessing members of a null object throws a NullReferenceException. Always " ++
            "check for null or use null-safe operators."
        example? := some "string result = myObject?.ToString() ?? \"default\";" }
    question? :=
      some "What happens if the object is null when you try to access its properties?" }

end Lesson

namespace RuleKind

/-- The type that an issue must have for the lesson of a kind to fit it. -/
def lessonType? : RuleKind → Option IssueType
  | incompleteBaseCase => some .logic
  | infiniteLoop => some .logic
  | memoryLeak => some .logic
  | missingSemicolon => some .syntactic
  | _ => none

/-- The lesson of a kind, if there is one for this audience. -/
def lesson? (kind : RuleKind) (beginner : Bool) : Option Lesson :=
  match kind with
  | incompleteBaseCase =>
    some (if beginner then Lesson.recursiveBaseCases else Lesson.edgeCaseHandling)
  | infiniteLoop => some Lesson.loopTermination
  | memoryLeak => some Lesson.memoryManagement
  | missingSemicolon => if beginner then some Lesson.statementTerminators else none
  | nullReference => some Lesson.nullSafety
  | _ => none

/-- The lesson of a kind for an issue of a type. -/
def lessonFor? (kind : RuleKind) (beginner : Bool) (type : IssueType) : Option Lesson :=
  if kind.lessonType?.all (· == type) then kind.lesson? beginner else none

end RuleKind
end SnippetCoach
