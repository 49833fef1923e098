import SnippetCoach.Analysis
import SnippetCoach.Feedback.Synthesis
import SnippetCoach.Number.Numeral
import SnippetCoach.Tag.Given
import SnippetCoach.Text.Lines
import SnippetCoach.Tracker
/-! One analysis from code to result: wait, detect, teach, stamp with the time, and count. -/
namespace SnippetCoach
open Number

/-- What to analyze, how long to wait before and the time of the clock, both in seconds. -/
structure Request where
  code : String
  language : GivenTag
  skillLevel : GivenTag
  delay : Binary64
  now : Binary64

/-- Why there is no result: a tag without a text, an issue without a lesson, a time beyond whole
numbers, or progress that cannot be written down. -/
inductive AnalysisError where
  | tag (e : ArithmeticError)
  | feedback (e : FeedbackError)
  | clock (e : ArithmeticError)
  | progress (e : ArithmeticError)

def AnalysisError.message : AnalysisError → String
  | tag e => e.message
  | feedback e => e.message
  | clock e => e.message
  | progress e => e.message

/-- A result, the waits asked for and what was reported. Blank code has no analysis. -/
structure Session where
  result : Except AnalysisError (Option Analysis)
  waits : List Binary64
  events : List Event

def timestampOf (now : Binary64) : Except ArithmeticError Int :=
  (now.mul (Binary64.ofNat 1000)).truncate

namespace Request

def isBlank (request : Request) : Bool :=
  Text.allBlank request.code.toList

def analysis (request : Request) (issues : List Issue) (feedback : Feedback) :
    Except AnalysisError Analysis := do
  let language ← request.language.label?.mapError .tag
  let skillLevel ← request.skillLevel.label?.mapError .tag
  let timestamp ← (timestampOf request.now).mapError .clock
  return { issues, feedback, language, skillLevel, timestamp }

/-- The session of a request on its own. -/
def run (request : Request) : Session :=
  if request.isBlank then { result := .ok none, waits := [], events := [.emptyCode] }
  else
    let waits := if request.delay.isPositive then [request.delay] else []
    match request.language.label? with
    | .error e => { result := .error (.tag e), waits, events := [] }
    | .ok language =>
      let started := Event.analysisStarted language (Text.lineCount request.code.toList)
      let issues := detect request.code request.language.language?
      match Feedback.forLearner issues request.skillLevel with
      | .error e => { result := .error (.feedback e), waits, events := [started] }
      | .ok feedback =>
        { result := (request.analysis issues feedback).map some
          waits
          events := [started, .analysisFinished issues.length] }

end Request

/-- A session whose issues a tracker counts. -/
def Tracker.analyze {σ : Type} [Store σ] (tracker : Tracker σ) (request : Request) :
    Session × Tracker σ :=
  let session := request.run
  let reported := { tracker with events := tracker.events ++ session.events }
  match session.result with
  | .ok (some analysis) =>
    match reported.record analysis.issues with
    | (.ok (), tracker) => (session, tracker)
    | (.error e, tracker) => ({ session with result := .error (.progress e) }, tracker)
  | _ => (session, reported)

end SnippetCoach
