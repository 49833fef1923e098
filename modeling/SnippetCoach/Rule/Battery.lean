import SnippetCoach.Tag.Language
import SnippetCoach.Rule.Loop
import SnippetCoach.Rule.Memory
import SnippetCoach.Rule.Resource
import SnippetCoach.Rule.Statement
import SnippetCoach.Rule.Structure
import SnippetCoach.Rule.Variable
/-! The rules of each language, in the order in which their findings are listed. -/
namespace SnippetCoach

/-- What the rule of a kind finds; the success kind finds nothing. -/
def RuleKind.findings : RuleKind → List Char → List Finding
  | .incompleteBaseCase => Rule.incompleteBaseCase
  | .indentation => Rule.indentation
  | .infiniteLoop => Rule.infiniteLoop
  | .offByOne => Rule.offByOne
  | .unusedVariable => Rule.unusedVariable
  | .missingReturn => Rule.missingReturn
  | .missingSemicolon => Rule.missingSemicolon
  | .arrayBounds => Rule.arrayBounds
  | .memoryLeak => Rule.memoryLeak
  | .uninitializedVariable => Rule.uninitializedVariable
  | .nullReference => Rule.nullReference
  | .undisposedResource => Rule.undisposedResource
  | .genericCatch => Rule.genericCatch
  | .noIssues => fun _ => []

/-- A language without rules has the empty battery. -/
def Language.battery : Language → List RuleKind
  | .python =>
    [.incompleteBaseCase, .indentation, .infiniteLoop, .offByOne, .unusedVariable, .missingReturn]
  | .c | .cpp => [.missingSemicolon, .arrayBounds, .memoryLeak, .uninitializedVariable]
  | .csharp => [.nullReference, .undisposedResource, .genericCatch]
  | .javascript | .java => []

/-- The findings of a whole battery; an unknown language has none. -/
def findings (code : List Char) (language : Option Language) : List Finding :=
  (language.elim [] Language.battery).flatMap fun kind => kind.findings code

end SnippetCoach
