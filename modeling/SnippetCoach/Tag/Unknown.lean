import SnippetCoach.Json.Display
/-! The refusal of a value that is no tag of its vocabulary. -/
namespace SnippetCoach
open Number

inductive Vocabulary where
  | issueType
  | severity
  | ruleKind
  | language
  | skillLevel
  deriving DecidableEq, Repr

def Vocabulary.name : Vocabulary → String
  | issueType => "IssueType"
  | severity => "Severity"
  | ruleKind => "RuleKind"
  | language => "Language"
  | skillLevel => "SkillLevel"

structure UnknownTag where
  vocabulary : Vocabulary
  value : Json

namespace UnknownTag

/-- A value that cannot be written is refused for that. -/
def message (e : UnknownTag) : String :=
  if e.value.isWritable then
    String.ofList e.value.literal ++ " is not a valid " ++ e.vocabulary.name
  else ArithmeticError.integerTooLong.message

/-- The member of a vocabulary that a document value names; only text can name one. -/
def read {α : Type} (vocabulary : Vocabulary) (ofTag? : String → Option α) (value : Json) :
    Except UnknownTag α :=
  match value with
  | .str label =>
    match ofTag? label with
    | some member => .ok member
    | none => .error { vocabulary, value }
  | _ => .error { vocabulary, value }

end UnknownTag
end SnippetCoach
