/-! The closed vocabularies of an issue: its type, its severity, and the rule that found it. Each
has a tag for documents. -/
namespace SnippetCoach

inductive IssueType where
  | logic
  | syntactic
  | concept
  | style
  | success
  deriving DecidableEq, Repr

/-- `clear` goes with the success issue only. -/
inductive Severity where
  | high
  | medium
  | low
  | clear
  deriving DecidableEq, Repr

inductive RuleKind where
  | incompleteBaseCase
  | indentation
  | infiniteLoop
  | offByOne
  | unusedVariable
  | missingReturn
  | missingSemicolon
  | arrayBounds
  | memoryLeak
  | uninitializedVariable
  | nullReference
  | undisposedResource
  | genericCatch
  | noIssues
  deriving DecidableEq, Repr

namespace IssueType

def all : List IssueType :=
  [logic, syntactic, concept, style, success]

def tag : IssueType → String
  | logic => "logic"
  | syntactic => "syntax"
  | concept => "concept"
  | style => "style"
  | success => "success"

def ofTag? (label : String) : Option IssueType :=
  all.find? (·.tag == label)

theorem ofTag?_tag (type : IssueType) : ofTag? type.tag = some type := by
  cases type <;> decide

theorem tag_of_ofTag? {label : String} {type : IssueType} (h : ofTag? label = some type) :
    type.tag = label := by
  have htag := List.find?_some h
  exact eq_of_beq htag

end IssueType

namespace Severity

/-- From the most to the least severe, the order of reports. -/
def all : List Severity :=
  [high, medium, low, clear]

def tag : Severity → String
  | high => "high"
  | medium => "medium"
  | low => "low"
  | clear => "none"

def heading : Severity → String
  | high => "HIGH"
  | medium => "MEDIUM"
  | low => "LOW"
  | clear => "NONE"

def colour : Severity → String
  | high => "red"
  | medium => "yellow"
  | low => "blue"
  | clear => "green"

def cssClasses (severity : Severity) : String :=
  let hue := severity.colour
  s!"text-{hue}-600 bg-{hue}-50 border-{hue}-200"

def ofTag? (label : String) : Option Severity :=
  all.find? (·.tag == label)

/-- An unknown label is shown like a clear result. -/
def ofLabel (label : String) : Severity :=
  (ofTag? label).getD clear

theorem ofTag?_tag (severity : Severity) : ofTag? severity.tag = some severity := by
  cases severity <;> decide

theorem tag_of_ofTag? {label : String} {severity : Severity} (h : ofTag? label = some severity) :
    severity.tag = label := by
  have htag := List.find?_some h
  exact eq_of_beq htag

end Severity

namespace RuleKind

def all : List RuleKind :=
  [incompleteBaseCase, indentation, infiniteLoop, offByOne, unusedVariable, missingReturn,
    missingSemicolon, arrayBounds, memoryLeak, uninitializedVariable, nullReference,
    undisposedResource, genericCatch, noIssues]

def tag : RuleKind → String
  | incompleteBaseCase => "incomplete-base-case"
  | indentation => "indentation"
  | infiniteLoop => "infinite-loop"
  | offByOne => "off-by-one"
  | unusedVariable => "unused-variable"
  | missingReturn => "missing-return"
  | missingSemicolon => "missing-semicolon"
  | arrayBounds => "array-bounds"
  | memoryLeak => "memory-leak"
  | uninitializedVariable => "uninitialized-variable"
  | nullReference => "null-reference"
  | undisposedResource => "undisposed-resource"
  | genericCatch => "generic-catch"
  | noIssues => "no-issues"

def ofTag? (label : String) : Option RuleKind :=
  all.find? (·.tag == label)

theorem ofTag?_tag (kind : RuleKind) : ofTag? kind.tag = some kind := by
  cases kind <;> decide

theorem tag_of_ofTag? {label : String} {kind : RuleKind} (h : ofTag? label = some kind) :
    kind.tag = label := by
  have htag := List.find?_some h
  exact eq_of_beq htag

end RuleKind
end SnippetCoach
