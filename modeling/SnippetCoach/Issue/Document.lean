import SnippetCoach.Issue.Basic
/-! Issues as documents. -/
namespace SnippetCoach.Issue

/-- An absent type or severity is that of the success issue; absent texts are empty; a kind that is
an empty value is none. The type is checked first, then the severity, then the kind. -/
def ofJson? (document : Json) : Except IssueError Issue := do
  let .obj fields := document | .error .notAnObject
  let field (name : String) (default : Json) : Json := (fields.lookup name).getD default
  let kind := field "kind" .null
  return {
    type := ← (UnknownTag.read .issueType IssueType.ofTag?
      (field "type" (.str IssueType.success.tag))).mapError .unknownTag
    severity := ← (UnknownTag.read .severity Severity.ofTag?
      (field "severity" (.str Severity.clear.tag))).mapError .unknownTag
    message := field "message" (.str "")
    explanation := field "explanation" (.str "")
    line := field "line" .null
    kind := ← if kind.isEmptyValue then pure none
      else ((UnknownTag.read .ruleKind RuleKind.ofTag? kind).mapError .unknownTag).map some }

/-- The line and the kind are left out when there is none. -/
def toJson (issue : Issue) : Json :=
  .ofFields
    [("type", some (.str issue.type.tag)),
      ("severity", some (.str issue.severity.tag)),
      ("message", some issue.message),
      ("explanation", some issue.explanation),
      ("line", if issue.line == .null then none else some issue.line),
      ("kind", issue.kind.map fun kind => .str kind.tag)]

end SnippetCoach.Issue
