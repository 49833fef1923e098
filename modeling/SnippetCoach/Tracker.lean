import SnippetCoach.Event
import SnippetCoach.Issue.Basic
/-! Progress over a store. The counters change first and are then written through; a store that
fails is reported and changes no counter. -/
namespace SnippetCoach
open Number

/-- A tracker with its store, and what it has reported, the oldest first. -/
structure Tracker (σ : Type) where
  key : String
  progress : Ledger
  store : σ
  events : List Event

namespace Tracker

variable {σ : Type}

def defaultKey : String := "code-mentor-progress"

def new (store : σ) (key : String) : Tracker σ :=
  { key, progress := ∅, store, events := [] }

def report (tracker : Tracker σ) (event : Event) : Tracker σ :=
  { tracker with events := tracker.events ++ [event] }

variable [Machine]

/-- Takes a stored value over. No value keeps the progress, a value that is no record empties it,
and where the reading breaks off nothing changes. -/
def accept (tracker : Tracker σ) (stored : WideJson) : Except RecordError (Tracker σ) :=
  match stored with
  | .null => .ok (tracker.report .noSavedProgress)
  | _ =>
    match Ledger.ofRecord? stored with
    | .ok progress => .ok { tracker with progress }
    | .error cause =>
      if cause.breaksOff then .error cause
      else .ok { tracker.report (.recordIgnored cause) with progress := ∅ }

variable [Store σ]

/-- Reads the stored progress. A store that fails keeps the progress as it is. -/
def load (tracker : Tracker σ) : Except RecordError (Tracker σ) :=
  match Store.get tracker.store tracker.key with
  | .error cause => .ok (tracker.report (.loadFailed cause))
  | .ok stored => tracker.accept stored

/-- Writes the progress and tells whether that worked. Progress that cannot be written down does not
reach the store. -/
def save (tracker : Tracker σ) : Except ArithmeticError Bool × Tracker σ :=
  match tracker.progress.record? with
  | .error cause => (.error cause, tracker)
  | .ok record =>
    match Store.set tracker.store tracker.key (.str record) with
    | (.error cause, store) => (.ok false, report { tracker with store } (.saveFailed cause))
    | (.ok (), store) => (.ok true, { tracker with store })

def update (tracker : Tracker σ) (progress : Ledger) : Except ArithmeticError Unit × Tracker σ :=
  let (saved, tracker) := save { tracker with progress }
  (saved.map fun _ => (), tracker)

def record (tracker : Tracker σ) (issues : List Issue) : Except ArithmeticError Unit × Tracker σ :=
  tracker.update (tracker.progress.encounterAll (issues.map Issue.type))

/-- Resolves encounters of a type and gives its entry. A type that was never encountered is
reported. -/
def resolve (tracker : Tracker σ) (type : WideText) (count : Int) :
    Except ArithmeticError (Option Entry) × Tracker σ :=
  match tracker.progress.get? type with
  | none => (.ok none, tracker.report (.nothingToResolve type))
  | some entry =>
    let resolved := entry.resolve count
    let (saved, tracker) := tracker.update (tracker.progress.set type resolved)
    (saved.map fun () => some resolved, tracker)

def reset (tracker : Tracker σ) : Tracker σ :=
  (tracker.update ∅).2

end Tracker
end SnippetCoach
