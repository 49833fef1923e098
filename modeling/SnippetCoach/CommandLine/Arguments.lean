import SnippetCoach.CommandLine.Grammar
import SnippetCoach.Number.Numeral
import SnippetCoach.Tag.Issue
import SnippetCoach.Tag.Language
import SnippetCoach.Tag.SkillLevel
/-! The commands of the program and their options. -/
namespace SnippetCoach.CommandLine
open Number

/-- What to analyze and how. Whatever is not given comes from the settings. A delay can be given
without a number. -/
structure AnalyzeArguments where
  file : Option String
  language : Option Language
  skillLevel : Option SkillLevel
  delay : Option (Option Binary64)
  json : Bool
  noProgress : Bool
  deriving DecidableEq, Repr

/-- What to do with the saved progress. The count can be given without a number. -/
structure ProgressArguments where
  resolve : Option IssueType
  count : Option Int
  reset : Bool
  chart : Option String
  deriving DecidableEq, Repr

inductive Command where
  | analyze (arguments : AnalyzeArguments)
  | progress (arguments : ProgressArguments)
  deriving DecidableEq, Repr

/-- The value of an option that is one of a list of choices. -/
def choose {α : Type} (argument : String) (tag : α → String) (choices : List α) (value : String) :
    Except Stop α :=
  match choices.find? (tag · == value) with
  | some choice => .ok choice
  | none => .error (.refused (.invalidChoice argument value (choices.map tag)))

/-- Goes through the pieces: options and operands change the result, unrecognized texts are
collected. -/
def interpret {α : Type} (operate : α → String → α) (result : α) :
    List (Piece α) → Except Stop (α × List String)
  | [] => .ok (result, [])
  | .change apply :: rest => do interpret operate (← apply result) rest
  | .operand text :: rest => interpret operate (operate result text) rest
  | .unrecognized text :: rest => do
    let (result, others) ← interpret operate result rest
    return (result, text :: others)
  | .refused e :: _ => .error (.refused e)

/-- Reads arguments by a grammar: the result and what was not recognized. -/
def readArguments {α : Type} (grammar : Grammar α) (operands : Operands) (operate : α → String → α)
    (start : α) (arguments : List String) : Except Stop (α × List String) := do
  let roles ← (grammar.roles arguments).mapError .refused
  interpret operate start (pieces grammar operands roles)

def helpOption {α : Type} : OptionSpec α :=
  { names := ["-h", "--help"], action := .flag fun _ => .error .help }

namespace AnalyzeArguments

def readDelay (value : String) : Except Stop Binary64 :=
  match readBinary64? value.toList with
  | some delay => .ok delay
  | none => .error (.refused (.invalidNumber "--delay" "float" value))

def giveLanguage (value : Option String) (arguments : AnalyzeArguments) :
    Except Stop AnalyzeArguments :=
  (value.mapM (choose "--language/-l" Language.tag Language.all)).map fun language =>
    { arguments with language }

def giveSkillLevel (value : Option String) (arguments : AnalyzeArguments) :
    Except Stop AnalyzeArguments :=
  (value.mapM (choose "--skill-level/-s" SkillLevel.tag SkillLevel.all)).map fun skillLevel =>
    { arguments with skillLevel }

def giveDelay (value : Option String) (arguments : AnalyzeArguments) :
    Except Stop AnalyzeArguments :=
  (value.mapM readDelay).map fun delay => { arguments with delay := some delay }

def grammar : Grammar AnalyzeArguments :=
  [helpOption,
    { names := ["--language", "-l"], action := .value giveLanguage },
    { names := ["--skill-level", "-s"], action := .value giveSkillLevel },
    { names := ["--delay"], action := .value giveDelay },
    { names := ["--json"], action := .flag fun arguments => .ok { arguments with json := true } },
    { names := ["--no-progress"]
      action := .flag fun arguments => .ok { arguments with noProgress := true } }]

def initial : AnalyzeArguments :=
  { file := none, language := none, skillLevel := none, delay := none, json := false
    noProgress := false }

def read (arguments : List String) : Except Stop (AnalyzeArguments × List String) :=
  let operate (result : AnalyzeArguments) (file : String) := { result with file := some file }
  readArguments grammar .one operate initial arguments

end AnalyzeArguments

namespace ProgressArguments

/-- Success issues cannot be resolved. -/
def resolvable : List IssueType :=
  IssueType.all.filter (· != .success)

def readCount (value : String) : Except Stop Int :=
  (readInt value.toList).mapError fun _ => .refused (.invalidNumber "--count" "int" value)

def giveResolve (value : Option String) (arguments : ProgressArguments) :
    Except Stop ProgressArguments :=
  (value.mapM (choose "--resolve" IssueType.tag resolvable)).map fun resolve =>
    { arguments with resolve }

def giveCount (value : Option String) (arguments : ProgressArguments) :
    Except Stop ProgressArguments :=
  (value.mapM readCount).map fun count => { arguments with count }

def grammar : Grammar ProgressArguments :=
  [helpOption,
    { names := ["--resolve"], action := .value giveResolve },
    { names := ["--count"], action := .value giveCount },
    { names := ["--reset"], action := .flag fun arguments => .ok { arguments with reset := true } },
    { names := ["--chart"]
      action := .value fun chart arguments => .ok { arguments with chart } }]

def initial : ProgressArguments :=
  { resolve := none, count := some 1, reset := false, chart := none }

def read (arguments : List String) : Except Stop (ProgressArguments × List String) :=
  readArguments grammar .none (fun result _ => result) initial arguments

end ProgressArguments

inductive Invocation where
  | run (debug : Bool) (command : Command)
  | help (scope : Scope)
  | noCommand
  | refused (scope : Scope) (e : UsageError)
  deriving DecidableEq, Repr

namespace Invocation

/-- The options before the command, and the command with its own arguments. -/
structure Front where
  debug : Bool
  words : List String

def grammar : Grammar Front :=
  [helpOption,
    { names := ["--debug"], action := .flag fun front => .ok { front with debug := true } }]

def readFront (arguments : List String) : Except Stop (Front × List String) :=
  readArguments grammar .all (fun front word => { front with words := front.words ++ [word] })
    { debug := false, words := [] } arguments

def ofStop (scope : Scope) : Stop → Invocation
  | .help => .help scope
  | .refused e => .refused scope e

def readCommand (name : String) (arguments : List String) :
    Except Invocation (Command × List String) := do
  let scope ← (choose "command" id ["analyze", "progress"] name).mapError (ofStop .program)
  if scope = "analyze" then
    let (arguments, others) ← (AnalyzeArguments.read arguments).mapError (ofStop .analyze)
    return (.analyze arguments, others)
  else
    let (arguments, others) ← (ProgressArguments.read arguments).mapError (ofStop .progress)
    return (.progress arguments, others)

/-- Arguments that nobody recognizes are refused last, those of the program before those of the
command. -/
def ofArguments (arguments : List String) : Invocation :=
  match readFront arguments with
  | .error stop => ofStop .program stop
  | .ok ({ debug, words }, others) =>
    match words with
    | [] => if others.isEmpty then .noCommand else .refused .program (.unrecognized others)
    | name :: rest =>
      match readCommand name rest with
      | .error invocation => invocation
      | .ok (command, more) =>
        if (others ++ more).isEmpty then .run debug command
        else .refused .program (.unrecognized (others ++ more))

end Invocation
end SnippetCoach.CommandLine
