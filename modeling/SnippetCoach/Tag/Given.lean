import SnippetCoach.Tag.Issue
import SnippetCoach.Tag.Language
import SnippetCoach.Tag.SkillLevel
import SnippetCoach.Tag.Unknown
/-! Tags as callers give them: a member of a vocabulary or any document value. A value with a whole
number of too many digits has no text, and then it is no label and no skill level. -/
namespace SnippetCoach
open Number

inductive GivenTag where
  | language (member : Language)
  | skillLevel (member : SkillLevel)
  | issueType (member : IssueType)
  | severity (member : Severity)
  | value (value : Json)

namespace GivenTag

/-- A member with its vocabulary and the tag in capitals, or the text of the value. -/
def text : GivenTag → String
  | language member => Vocabulary.language.name ++ "." ++ member.tag.map Char.toUpper
  | skillLevel member => Vocabulary.skillLevel.name ++ "." ++ member.tag.map Char.toUpper
  | issueType member => Vocabulary.issueType.name ++ "." ++ member.tag.map Char.toUpper
  | severity member => Vocabulary.severity.name ++ "." ++ member.heading
  | value v => v.display

/-- Members always have a text. -/
def isWritable : GivenTag → Bool
  | value v => v.isWritable
  | _ => true

/-- What is made of the text of a tag, if it has one. -/
def whenWritable {α : Type} (given : GivenTag) (result : α) : Except ArithmeticError α :=
  if given.isWritable then .ok result else .error .integerTooLong

/-- The tag that an analysis is labelled with: languages and skill levels by their own tag. -/
def label : GivenTag → String
  | language member => member.tag
  | skillLevel member => member.tag
  | other => other.text

def label? (given : GivenTag) : Except ArithmeticError String :=
  given.whenWritable given.label

/-- The language meant; other members and values that are no tag mean none. -/
def language? : GivenTag → Option Language
  | language member => some member
  | value (.str label) => Language.ofTag? label
  | _ => none

/-- Only the split between beginners and all others matters. -/
def isBeginner : GivenTag → Bool
  | skillLevel member => member == .beginner
  | other => other.text == SkillLevel.beginner.tag

def isBeginner? (given : GivenTag) : Except ArithmeticError Bool :=
  given.whenWritable given.isBeginner

/-- The severity whose style is meant; whatever is no severity, or has no text, has the style of a
clear result. -/
def severityShown : GivenTag → Severity
  | severity member => member
  | other => if other.isWritable then Severity.ofLabel other.text else .clear

/-- The name under which progress counts an issue type. -/
def progressKey : GivenTag → String
  | issueType member => member.tag
  | other => other.text

def progressKey? (given : GivenTag) : Except ArithmeticError String :=
  given.whenWritable given.progressKey

end GivenTag
end SnippetCoach
