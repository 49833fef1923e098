/-! What learners say about their skill. -/
namespace SnippetCoach

inductive SkillLevel where
  | beginner
  | intermediate
  | advanced
  deriving DecidableEq, Repr

namespace SkillLevel

def all : List SkillLevel :=
  [beginner, intermediate, advanced]

def tag : SkillLevel → String
  | beginner => "beginner"
  | intermediate => "intermediate"
  | advanced => "advanced"

def ofTag? (label : String) : Option SkillLevel :=
  all.find? (·.tag == label)

theorem ofTag?_tag (level : SkillLevel) : ofTag? level.tag = some level := by
  cases level <;> decide

end SkillLevel
end SnippetCoach
