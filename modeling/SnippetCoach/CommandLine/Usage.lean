import SnippetCoach.Text.Quoted
/-! Help texts, and the refusals of a command line. -/
namespace SnippetCoach.CommandLine

/-- Whose usage a text is about: that of the whole program or of one of its commands. -/
inductive Scope where
  | program
  | analyze
  | progress
  deriving DecidableEq, Repr

/-- Why a command line is refused. Options are called by all their names. -/
inductive UsageError where
  | ambiguous (argument : String) (candidates : List String)
  | missingValue (option : String)
  | unexpectedValue (option value : String)
  | invalidChoice (argument value : String) (choices : List String)
  | invalidNumber (option kind value : String)
  | unrecognized (arguments : List String)
  deriving DecidableEq, Repr

namespace UsageError

def quote (text : String) : String :=
  String.ofList (Text.quoted text.toList)

def message : UsageError → String
  | ambiguous argument candidates =>
    "ambiguous option: " ++ argument ++ " could match " ++ ", ".intercalate candidates
  | missingValue option => "argument " ++ option ++ ": expected one argument"
  | unexpectedValue option value =>
    "argument " ++ option ++ ": ignored explicit argument " ++ quote value
  | invalidChoice argument value choices =>
    "argument " ++ argument ++ ": invalid choice: " ++ quote value ++ " (choose from " ++
      ", ".intercalate (choices.map quote) ++ ")"
  | invalidNumber option kind value =>
    "argument " ++ option ++ ": invalid " ++ kind ++ " value: " ++ quote value
  | unrecognized arguments => "unrecognized arguments: " ++ " ".intercalate arguments

end UsageError

namespace Scope

def name : Scope → String
  | program => "code-mentor"
  | analyze => "code-mentor analyze"
  | progress => "code-mentor progress"

def usage : Scope → List String
  | program => ["usage: code-mentor [-h] [--debug] \x7banalyze,progress\x7d ..."]
  | analyze =>
    ["usage: code-mentor analyze [-h]",
      "                           [--language \x7bpython,javascript,java,c,cpp,csharp\x7d]",
      "                           [--skill-level \x7bbeginner,intermediate,advanced\x7d]",
      "                           [--delay DELAY] [--json] [--no-progress]",
      "                           [file]"]
  | progress =>
    ["usage: code-mentor progress [-h] [--resolve \x7blogic,syntax,concept,style\x7d]",
      "                            [--count COUNT] [--reset] [--chart CHART]"]

def description : Scope → List String
  | program =>
    ["Code Mentor - adaptive feedback on code snippets",
      "",
      "positional arguments:",
      "  \x7banalyze,progress\x7d  Commands",
      "    analyze           Analyze a code snippet",
      "    progress          Show saved progress",
      "",
      "options:",
      "  -h, --help          show this help message and exit",
      "  --debug             Enable debug logging"]
  | analyze =>
    ["positional arguments:",
      "  file                  Source file to analyze (default: read stdin)",
      "",
      "options:",
      "  -h, --help            show this help message and exit",
      "  --language \x7bpython,javascript,java,c,cpp,csharp\x7d, " ++
        "-l \x7bpython,javascript,java,c,cpp,csharp\x7d",
      "                        Language of the snippet (default: CODE_MENTOR_LANGUAGE",
      "                        or python)",
      "  --skill-level \x7bbeginner,intermediate,advanced\x7d, " ++
        "-s \x7bbeginner,intermediate,advanced\x7d",
      "                        Learner skill level (default: CODE_MENTOR_SKILL_LEVEL",
      "                        or beginner)",
      "  --delay DELAY         Simulated analysis delay in seconds",
      "  --json                Print the result as JSON",
      "  --no-progress         Do not record this analysis in saved progress"]
  | progress =>
    ["options:",
      "  -h, --help            show this help message and exit",
      "  --resolve \x7blogic,syntax,concept,style\x7d",
      "                        Mark issues of this type as resolved",
      "  --count COUNT         How many issues to mark resolved (default: 1)",
      "  --reset               Clear saved progress",
      "  --chart CHART         Render a progress chart to this image path"]

def help (scope : Scope) : List String :=
  scope.usage ++ "" :: scope.description

def refusal (scope : Scope) (e : UsageError) : List String :=
  scope.usage ++ [scope.name ++ ": error: " ++ e.message]

end Scope
end SnippetCoach.CommandLine
