import SnippetCoach.Tag.Issue
/-! What a rule reports: its kind, a line and a message. Type, severity and explanation depend on
the kind alone. -/
namespace SnippetCoach

namespace RuleKind

def type : RuleKind → IssueType
  | incompleteBaseCase => .logic
  | indentation => .syntactic
  | infiniteLoop => .logic
  | offByOne => .concept
  | unusedVariable => .style
  | missingReturn => .logic
  | missingSemicolon => .syntactic
  | arrayBounds => .logic
  | memoryLeak => .logic
  | uninitializedVariable => .logic
  | nullReference => .logic
  | undisposedResource => .style
  | genericCatch => .style
  | noIssues => .success

def severity : RuleKind → Severity
  | incompleteBaseCase => .high
  | indentation => .high
  | infiniteLoop => .medium
  | offByOne => .low
  | unusedVariable => .low
  | missingReturn => .medium
  | missingSemicolon => .high
  | arrayBounds => .medium
  | memoryLeak => .high
  | uninitializedVariable => .medium
  | nullReference => .medium
  | undisposedResource => .medium
  | genericCatch => .low
  | noIssues => .clear

/-- The message; that of an unused variable also names the variable. -/
def message (kind : RuleKind) (variableName : String) : String :=
  match kind with
  | incompleteBaseCase => "Incomplete base case in recursive function"
  | indentation => "Indentation error"
  | infiniteLoop => "Potential infinite loop"
  | offByOne => "Potential off-by-one error"
  | unusedVariable => "Variable '" ++ variableName ++ "' is assigned but never used"
  | missingReturn => "Function may not return a value"
  | missingSemicolon => "Missing semicolon"
  | arrayBounds => "Potential array bounds violation"
  | memoryLeak => "Potential memory leak"
  | uninitializedVariable => "Potentially uninitialized variable"
  | nullReference => "Potential null reference exception"
  | undisposedResource => "Resource not properly disposed"
  | genericCatch => "Catching generic Exception"
  | noIssues => "No obvious issues detected!"

def explanation : RuleKind → String
  | incompleteBaseCase =>
    "Your base case only handles n=1, but what happens when n=0? The function will recurse " ++
      "infinitely."
  | indentation =>
    "Python requires consistent indentation. Code inside a function or after a colon must be " ++
      "indented."
  | infiniteLoop =>
    "You have a \"while True\" loop without a break statement. How will this loop ever stop?"
  | offByOne => "Remember: range(n) goes from 0 to n-1, not 0 to n. Is this what you intended?"
  | unusedVariable => "Did you forget to use this variable, or is it unnecessary?"
  | missingReturn => "Your function does not have a return statement. Should it return something?"
  | missingSemicolon =>
    "In C/C++, most statements must end with a semicolon. Did you forget one here?"
  | arrayBounds =>
    "Are you checking if the index is within valid bounds? Accessing outside array bounds " ++
      "causes undefined behavior in C/C++."
  | memoryLeak =>
    "You allocated memory but never freed it. Every malloc() needs a free(), and every new " ++
      "needs a delete."
  | uninitializedVariable =>
    "In C/C++, variables are not automatically initialized. Always assign a value before using " ++
      "it."
  | nullReference =>
    "Are you checking if the object is null before accessing its members? Consider using " ++
      "null-conditional operator (?.) or null checks."
  | undisposedResource =>
    "Use a using statement to ensure resources are properly disposed. This prevents resource " ++
      "leaks."
  | genericCatch =>
    "Consider catching more specific exception types. This makes your error handling more " ++
      "precise and maintainable."
  | noIssues =>
    "Your code structure looks good. Consider testing it with different inputs to verify it " ++
      "works as expected."

end RuleKind

/-- A line number counts from 1; 0 means that the place was not found. -/
structure Finding where
  kind : RuleKind
  line : Nat
  message : String
  deriving DecidableEq, Repr

namespace Finding

/-- A finding of a kind whose message names no variable. -/
def plain (kind : RuleKind) (line : Nat) : Finding :=
  { kind, line, message := kind.message "" }

/-- At most one finding, present when the condition holds. -/
def onlyIf (condition : Bool) (kind : RuleKind) (line : Nat) : List Finding :=
  if condition then [plain kind line] else []

end Finding
end SnippetCoach
