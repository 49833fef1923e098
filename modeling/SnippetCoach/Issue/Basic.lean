import SnippetCoach.Rule.Battery
import SnippetCoach.Tag.Unknown
/-! Issues: what a rule found, or what a document tells about one. Texts and the line can then be
any document value. -/
namespace SnippetCoach

/-- A null line means that there is none; line 0 was not found. -/
structure Issue where
  type : IssueType
  severity : Severity
  message : Json
  explanation : Json
  line : Json
  kind : Option RuleKind
  deriving Repr

inductive IssueError where
  | notAnObject
  | unknownTag (e : UnknownTag)
  | unsearchableMessage

def IssueError.message : IssueError → String
  | notAnObject => "an issue is not an object"
  | unknownTag e => e.message
  | unsearchableMessage => "the message of an issue cannot be searched"

namespace RuleKind

/-- Fragments of messages that tell the kind of an issue without one, in order. -/
def fragments : List (String × RuleKind) :=
  [("base case", incompleteBaseCase), ("infinite loop", infiniteLoop), ("memory leak", memoryLeak),
    ("semicolon", missingSemicolon), ("null reference", nullReference)]

/-- A message holds a fragment: inside its text, as one of its items, or as the name of one of its
fields. Other messages cannot be searched. -/
def holds? (message : Json) (fragment : String) : Option Bool :=
  match message with
  | .str text => some (Text.mentions text.toList fragment)
  | .arr items => some (items.any (· == .str fragment))
  | .obj fields => some (fields.any (·.1 == fragment))
  | _ => none

/-- Every kind with a fragment in the message, in the order of the fragments. -/
def ofMessage? (message : Json) : Option (List RuleKind) := do
  let found ← fragments.mapM fun (fragment, kind) =>
    return if ← holds? message fragment then [kind] else []
  return found.flatten

end RuleKind

namespace Issue

def ofFinding (finding : Finding) : Issue :=
  { type := finding.kind.type
    severity := finding.kind.severity
    message := .str finding.message
    explanation := .str finding.kind.explanation
    line := .int finding.line
    kind := some finding.kind }

def noIssues : Issue :=
  { type := RuleKind.noIssues.type
    severity := RuleKind.noIssues.severity
    message := .str (RuleKind.noIssues.message "")
    explanation := .str RuleKind.noIssues.explanation
    line := .null
    kind := some .noIssues }

/-- The kinds that feedback speaks about: the kind of the issue, or those its message tells. -/
def kinds (issue : Issue) : Except IssueError (List RuleKind) :=
  match issue.kind with
  | some kind => .ok [kind]
  | none =>
    match RuleKind.ofMessage? issue.message with
    | some kinds => .ok kinds
    | none => .error .unsearchableMessage

end Issue

/-- The issues of a snippet, in the order of the battery, or the one that reports none. -/
def detect (code : String) (language : Option Language) : List Issue :=
  let found := (findings code.toList language).map Issue.ofFinding
  if found.isEmpty then [Issue.noIssues] else found

end SnippetCoach
