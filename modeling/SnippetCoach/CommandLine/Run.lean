import SnippetCoach.CommandLine.Arguments
import SnippetCoach.Json.Printer
import SnippetCoach.Metrics
import SnippetCoach.Progress.Bar
import SnippetCoach.Progress.Chart
import SnippetCoach.Report
import SnippetCoach.Session
import SnippetCoach.Settings
import SnippetCoach.Store.File
/-! One run of the program: from arguments, environment, input and files to what is printed and
which files there are then. -/
namespace SnippetCoach.CommandLine
open Number

/-- All that a run depends on: what it is given, the clock in seconds, the home directories of its
user and of the others, the plotting library and the files. -/
structure Situation where
  arguments : List String
  environment : Environment
  input : List UInt8
  now : Binary64
  home : Path
  users : String → Option Path
  plotter : Plotter
  workspace : Workspace

/-- One or more lines of output: plain ones, or a report for the log. -/
inductive Output where
  | line (text : String)
  | log (event : Event)
  deriving DecidableEq, Repr

structure Outcome where
  status : Nat
  stdout : List Output
  stderr : List Output
  waits : List Binary64
  workspace : Workspace

inductive CommandError where
  | settings (e : DelayError)
  | path (e : FileError)
  | encoding (e : Text.Utf8.DecodeError)
  | unknownHome
  | record (e : RecordError)
  | missingDelay
  | missingCount
  | analysis (e : AnalysisError)
  | number (e : ArithmeticError)
  | bar (e : BarError)
  | unprintable (e : EncodeError)
  | chart (e : ChartError)

/-- A missing number fails where it is compared with zero. -/
def CommandError.message : CommandError → String
  | settings e => e.message
  | path e => e.message
  | encoding e => e.message
  | unknownHome => "Could not determine home directory."
  | record e => e.message
  | missingDelay => "'>' not supported between instances of 'list' and 'int'"
  | missingCount => "'>' not supported between instances of 'int' and 'list'"
  | analysis e => e.message
  | number e => e.message
  | bar e => e.message
  | unprintable e => e.message
  | chart e => e.message

/-- What a command does, before it is decided where its log goes. A failed command has no status of
its own. -/
structure Effect where
  status : Except CommandError Nat
  output : List Output
  waits : List Binary64
  workspace : Workspace

/-- Text with every line end written as a line feed. -/
def decodeText (bytes : List UInt8) : Except Text.Utf8.DecodeError String :=
  (Text.Utf8.decode bytes).map fun text => String.ofList (Text.unifyLineEnds text)

/-- The code to analyze: from a file, or from the input without a file or for a dash. -/
def readCode (situation : Situation) (file : Option String) : Except CommandError String := do
  match file with
  | none | some "-" => (decodeText situation.input).mapError .encoding
  | some name =>
    let bytes ← (situation.workspace.read (Path.ofText name)).mapError .path
    (decodeText bytes).mapError .encoding

section Commands

variable [Machine]

/-- The tracker of saved progress, or why the command cannot go on. -/
def openTracker (situation : Situation) (settings : Settings) :
    Except CommandError (Tracker FileStore) :=
  match (Path.ofText settings.progressFile).expandHome? situation.home situation.users with
  | none => .error .unknownHome
  | some path =>
    let store : FileStore := { path, workspace := situation.workspace }
    (Tracker.load (Tracker.new store Tracker.defaultKey)).mapError .record

namespace Effect

/-- A command that ends early and has changed nothing. -/
def early (situation : Situation) (status : Except CommandError Nat) (events : List Event) :
    Effect :=
  { status, output := events.map .log, waits := [], workspace := situation.workspace }

end Effect

/-- What is printed for an analysis of the program's own. The numbers in it count what is in memory
and can always be written. -/
def analysisLines (json : Bool) (analysis : Analysis) : Except ArithmeticError (List String) :=
  if json then .ok [analysis.toJson.wide.indentedText]
  else
    (Metrics.ofIssues analysis.issues none).text.map fun metrics => [analysis.text, "", metrics]

def requestFor (situation : Situation) (settings : Settings) (arguments : AnalyzeArguments)
    (code : String) : Except CommandError Request := do
  let some delay := arguments.delay.getD (some settings.delay) | .error .missingDelay
  return {
    code
    language := .value (.str ((arguments.language.map Language.tag).getD settings.language))
    skillLevel := .value (.str ((arguments.skillLevel.map SkillLevel.tag).getD settings.skillLevel))
    delay
    now := situation.now }

def sessionEffect (json : Bool) (session : Session) (events : List Event) (workspace : Workspace) :
    Effect :=
  let effect (status : Except CommandError Nat) (lines : List String) : Effect :=
    { status, output := events.map .log ++ lines.map .line, waits := session.waits, workspace }
  match session.result with
  | .error e => effect (.error (.analysis e)) []
  | .ok none => effect (.ok 0) []
  | .ok (some analysis) =>
    match analysisLines json analysis with
    | .error e => effect (.error (.number e)) []
    | .ok lines => effect (.ok 0) lines

/-- Analyzes code that is not blank. Saved progress is loaded before the request is looked at. -/
def analyzeCode (situation : Situation) (settings : Settings) (arguments : AnalyzeArguments)
    (code : String) : Effect :=
  let request := requestFor situation settings arguments code
  if settings.trackProgress && !arguments.noProgress then
    match openTracker situation settings, request with
    | .error e, _ => Effect.early situation (.error e) []
    | .ok tracker, .error e => Effect.early situation (.error e) tracker.events
    | .ok tracker, .ok request =>
      let (session, tracker) := tracker.analyze request
      sessionEffect arguments.json session tracker.events tracker.store.workspace
  else
    match request with
    | .error e => Effect.early situation (.error e) []
    | .ok request =>
      let session := request.run
      sessionEffect arguments.json session session.events situation.workspace

/-- A file that the system refuses to read is reported; any other error fails the command. -/
def analyze (situation : Situation) (settings : Settings) (arguments : AnalyzeArguments) : Effect :=
  match readCode situation arguments.file with
  | .error (.path e) =>
    if e.isSystemError then
      Effect.early situation (.ok 1) [.codeUnreadable (arguments.file.getD "-") e]
    else Effect.early situation (.error (.path e)) []
  | .error e => Effect.early situation (.error e) []
  | .ok code =>
    if Text.allBlank code.toList then Effect.early situation (.ok 0) [.noCode]
    else analyzeCode situation settings arguments code

/-- The status and the reports after a chart was to be saved. -/
def chartEffect (path : Path) : Except ChartError Chart → Except CommandError Nat × List Event
  | .ok _ => (.ok 0, [.chartSaved path])
  | .error e =>
    if e.isRefusal then (.ok 1, [.chartRefused e.message]) else (.error (.chart e), [])

/-- The bars as they are printed. -/
def progressLine (ledger : Ledger) : Except CommandError String := do
  let text ← (ledger.text Ledger.defaultWidth).mapError .bar
  text.toString?.mapError .unprintable

/-- The end of the progress command: the bars, and the chart if one is asked for. -/
def showProgress (tracker : Tracker FileStore) (plotter : Plotter) (chart : Option String) :
    Effect :=
  let reported : List Output := tracker.events.map .log
  let workspace := tracker.store.workspace
  match progressLine tracker.progress with
  | .error e => { status := .error e, output := reported, waits := [], workspace }
  | .ok text =>
    let shown := reported ++ [.line text]
    match chart with
    | none | some "" => { status := .ok 0, output := shown, waits := [], workspace }
    | some name =>
      let path := Path.ofText name
      let (saved, workspace) :=
        Chart.save plotter workspace tracker.progress Chart.defaultTitle path
      let (status, events) := chartEffect path saved
      { status, output := shown ++ events.map .log, waits := [], workspace }

def resetIf (reset : Bool) (tracker : Tracker FileStore) : Tracker FileStore :=
  if reset then tracker.reset.report .progressReset else tracker

/-- Resolves encounters of a type if asked to. Nothing can be resolved of a type that was never
encountered, whatever the count. -/
def resolveIf (arguments : ProgressArguments) (tracker : Tracker FileStore) :
    Except CommandError Bool × Tracker FileStore :=
  match arguments.resolve, arguments.count with
  | none, _ => (.ok true, tracker)
  | some type, some count =>
    let (resolved, tracker) := tracker.resolve type.tag count
    ((resolved.mapError .number).map Option.isSome, tracker)
  | some type, none =>
    match tracker.progress.get? type.tag with
    | none => (.ok false, tracker.report (.nothingToResolve type.tag))
    | some _ => (.error .missingCount, tracker)

def progress (situation : Situation) (settings : Settings) (arguments : ProgressArguments) :
    Effect :=
  match openTracker situation settings with
  | .error e => Effect.early situation (.error e) []
  | .ok loaded =>
    let (resolved, tracker) := resolveIf arguments (resetIf arguments.reset loaded)
    let ended (status : Except CommandError Nat) : Effect :=
      { status, output := tracker.events.map .log, waits := []
        workspace := tracker.store.workspace }
    match resolved with
    | .error e => ended (.error e)
    | .ok false => ended (.ok 1)
    | .ok true => showProgress tracker situation.plotter arguments.chart

def effectOf (situation : Situation) (command : Command) : Effect :=
  match Settings.ofEnvironment situation.environment with
  | .error e => Effect.early situation (.error (.settings e)) []
  | .ok settings =>
    match command with
    | .analyze arguments => analyze situation settings arguments
    | .progress arguments => progress situation settings arguments

end Commands

/-- The output is a document for other programs. -/
def printsDocument : Command → Bool
  | .analyze arguments => arguments.json
  | .progress _ => false

def isLog : Output → Bool
  | .log _ => true
  | .line _ => false

def isShown (least : Level) : Output → Bool
  | .log event => least.weight ≤ event.level.weight
  | .line _ => true

/-- Runs a command. Its log goes with its lines, but apart from a document; then it is limited to
warnings and errors unless debugging is on. A failure is reported last. -/
def execute [Machine] (situation : Situation) (debug : Bool) (command : Command) : Outcome :=
  let effect := effectOf situation command
  let document := printsDocument command
  let (status, output) :=
    match effect.status with
    | .ok status => (status, effect.output)
    | .error e => (1, effect.output ++ [Output.log (.commandFailed e.message)])
  let least : Level := if debug then .debug else if document then .warning else .info
  let shown := output.filter (isShown least)
  { status
    stdout := if document then shown.filter (!isLog ·) else shown
    stderr := if document then shown.filter isLog else []
    waits := effect.waits
    workspace := effect.workspace }

def readsInput : Invocation → Bool
  | .run _ (.analyze arguments) => arguments.file.all (· == "-")
  | _ => false

def filesOf (environment : Environment) (home : Path) (users : String → Option Path)
    (invocation : Invocation) : List Path :=
  let named :=
    match invocation with
    | .run _ (.analyze arguments) => arguments.file
    | .run _ (.progress arguments) => arguments.chart
    | _ => none
  let saved :=
    match Settings.ofEnvironment environment with
    | .ok settings => (Path.ofText settings.progressFile).expandHome? home users
    | .error _ => none
  (named.map Path.ofText).toList ++ saved.toList

/-- One run of the program. A command line without a command is answered by the help. -/
def run [Machine] (situation : Situation) : Outcome :=
  let answer (status : Nat) (stdout stderr : List String) : Outcome :=
    { status
      stdout := stdout.map .line
      stderr := stderr.map .line
      waits := []
      workspace := situation.workspace }
  match Invocation.ofArguments situation.arguments with
  | .help scope => answer 0 scope.help []
  | .noCommand => answer 1 Scope.program.help []
  | .refused scope e => answer 2 [] (scope.refusal e)
  | .run debug command => execute situation debug command

end SnippetCoach.CommandLine
