import SnippetCoach.Progress.Ledger
import SnippetCoach.Store.Basic
/-! What a run reports about itself. -/
namespace SnippetCoach

inductive Level where
  | debug
  | info
  | warning
  | error
  deriving DecidableEq, Repr

namespace Level

def name : Level → String
  | debug => "DEBUG"
  | info => "INFO"
  | warning => "WARNING"
  | error => "ERROR"

/-- Levels in the order of their weight. -/
def weight : Level → Nat
  | debug => 0
  | info => 1
  | warning => 2
  | error => 3

end Level

inductive Event where
  | emptyCode
  | analysisStarted (language : String) (lines : Nat)
  | analysisFinished (issues : Nat)
  | noSavedProgress
  | loadFailed (cause : StoreError)
  | recordIgnored (cause : RecordError)
  | saveFailed (cause : StoreError)
  | nothingToResolve (type : WideText)
  | codeUnreadable (name : String) (cause : FileError)
  | noCode
  | progressReset
  | chartRefused (reason : String)
  | chartSaved (path : Path)
  | commandFailed (reason : String)
  deriving DecidableEq, Repr

namespace Event

def level : Event → Level
  | emptyCode | analysisStarted .. | analysisFinished .. | noSavedProgress | progressReset
  | chartSaved .. => .info
  | loadFailed .. | recordIgnored .. | nothingToResolve .. | noCode => .warning
  | saveFailed .. | codeUnreadable .. | chartRefused .. | commandFailed .. => .error

def headline : Event → String
  | emptyCode => "Nothing to analyze: code is empty"
  | analysisStarted language lines =>
    "Analyzing " ++ language ++ " snippet (" ++ toString lines ++ " lines)"
  | analysisFinished issues => "Analysis complete: " ++ toString issues ++ " issue(s)"
  | noSavedProgress => "No previous progress found"
  | loadFailed _ => "Failed to load progress"
  | recordIgnored _ => "Ignoring malformed progress record"
  | saveFailed _ => "Failed to save progress"
  | nothingToResolve type =>
    "No encountered issues of type '" ++ String.ofList type.shown ++ "' to resolve"
  | codeUnreadable name _ => "Cannot read " ++ name
  | noCode => "No code to analyze"
  | progressReset => "Progress reset"
  | chartRefused _ => "Cannot render chart"
  | chartSaved path => "Chart saved: " ++ path.text
  | commandFailed _ => "Command failed"

def cause? : Event → Option String
  | loadFailed cause | saveFailed cause => some cause.message
  | recordIgnored cause => some cause.message
  | codeUnreadable _ cause => some cause.message
  | chartRefused reason | commandFailed reason => some reason
  | _ => none

def text (event : Event) : String :=
  event.headline ++ event.cause?.elim "" (": " ++ ·)

end Event
end SnippetCoach
