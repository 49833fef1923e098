/-! The languages a snippet can be declared in. -/
namespace SnippetCoach

inductive Language where
  | python
  | javascript
  | java
  | c
  | cpp
  | csharp
  deriving DecidableEq, Repr

namespace Language

def all : List Language :=
  [python, javascript, java, c, cpp, csharp]

def tag : Language → String
  | python => "python"
  | javascript => "javascript"
  | java => "java"
  | c => "c"
  | cpp => "cpp"
  | csharp => "csharp"

def displayName : Language → String
  | python => "Python"
  | javascript => "JavaScript"
  | java => "Java"
  | c => "C"
  | cpp => "C++"
  | csharp => "C#"

/-- Exact tags only: case and surrounding white space matter. -/
def ofTag? (label : String) : Option Language :=
  all.find? (·.tag == label)

theorem ofTag?_tag (language : Language) : ofTag? language.tag = some language := by
  cases language <;> decide

theorem tag_of_ofTag? {label : String} {language : Language} (h : ofTag? label = some language) :
    language.tag = label := by
  have htag := List.find?_some h
  exact eq_of_beq htag

end Language
end SnippetCoach
