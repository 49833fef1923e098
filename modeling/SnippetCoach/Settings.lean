import SnippetCoach.Number.Numeral
import SnippetCoach.Text.Case
import SnippetCoach.Text.Quoted
/-! Settings from the environment. -/
namespace SnippetCoach
open Number

structure Settings where
  language : String
  skillLevel : String
  delay : Binary64
  trackProgress : Bool
  progressFile : String

structure DelayError where
  text : String
  deriving DecidableEq, Repr

def DelayError.message (e : DelayError) : String :=
  "could not convert string to float: " ++ String.ofList (Text.quoted e.text.toList)

abbrev Environment := List (String × String)

/-- The value of a variable, or what holds without it. -/
def Environment.getOr (environment : Environment) (name default : String) : String :=
  (environment.lookup name).getD default

def Settings.variableNames : List String :=
  ["CODE_MENTOR_LANGUAGE", "CODE_MENTOR_SKILL_LEVEL", "CODE_MENTOR_ANALYSIS_DELAY",
    "CODE_MENTOR_TRACK_PROGRESS", "CODE_MENTOR_PROGRESS_FILE"]

/-- Progress is tracked when the variable says so in any case. -/
def Settings.ofEnvironment (environment : Environment) : Except DelayError Settings :=
  let delay := environment.getOr "CODE_MENTOR_ANALYSIS_DELAY" "1.5"
  match readBinary64? delay.toList with
  | none => .error { text := delay }
  | some delay =>
    .ok
      { language := environment.getOr "CODE_MENTOR_LANGUAGE" "python"
        skillLevel := environment.getOr "CODE_MENTOR_SKILL_LEVEL" "beginner"
        delay
        trackProgress :=
          Text.lower (environment.getOr "CODE_MENTOR_TRACK_PROGRESS" "true").toList == "true".toList
        progressFile :=
          environment.getOr "CODE_MENTOR_PROGRESS_FILE" "~/.code-mentor/progress.json" }

end SnippetCoach
