import SnippetCoach.Json.Printer
import SnippetCoach.Json.Reader
import SnippetCoach.Machine
import SnippetCoach.Progress.Entry
import SnippetCoach.Tag.Issue
/-! Progress: an entry for each issue type that occurred, in the order of its first encounter. The
record of a ledger is a document in one line. -/
namespace SnippetCoach
open Number

/-- Entries by type name. Records may name types that no rule has. -/
abbrev Ledger := OrderedMap Entry WideText

inductive RecordError where
  | notText
  | document (e : Json.ReadError)
  | notAnObject
  | entry (e : EntryError)
  deriving DecidableEq, Repr

namespace RecordError

def message : RecordError → String
  | notText => "the record is not a text"
  | document e => e.message
  | notAnObject => "the record is not an object"
  | entry e => e.message

/-- The reading breaks off, so that it is not decided whether the value is a record. -/
def breaksOff : RecordError → Bool
  | document (.tooDeep _) => true
  | entry (.arithmetic .infinityToInteger) => true
  | _ => false

end RecordError

namespace Ledger

def encounter (ledger : Ledger) (type : IssueType) : Ledger :=
  ledger.set type.tag ((ledger.get? type.tag).getD Entry.new).encounter

def encounterAll (ledger : Ledger) (types : List IssueType) : Ledger :=
  types.foldl encounter ledger

def toJson (ledger : Ledger) : WideJson :=
  .ofMap (ledger.mapValues Entry.toJson)

def record (ledger : Ledger) : String :=
  ledger.toJson.compactText

/-- The text that is stored, unless a counter has too many digits to be written. -/
def record? (ledger : Ledger) : Except ArithmeticError String :=
  if ledger.entries.all fun entry => entry.2.isWritable then .ok ledger.record
  else .error .integerTooLong

def ofEntries? : List (WideText × WideJson) → Except EntryError (List (WideText × Entry))
  | [] => .ok []
  | (name, document) :: rest => do
    let entry ← Entry.ofJson? document
    return (name, entry) :: (← ofEntries? rest)

/-- Every entry of the document, or the error of the first that is none. -/
def ofJson? (document : WideJson) : Except RecordError Ledger := do
  let .obj fields := document | .error .notAnObject
  return OrderedMap.ofList (← (ofEntries? fields).mapError .entry)

/-- The ledger of a stored value, which has to be the text of a record. -/
def ofRecord? [Machine] (stored : WideJson) : Except RecordError Ledger := do
  let .str text := stored | .error .notText
  ofJson? (← (Json.read Machine.recordDepth text.points).mapError .document)

end Ledger
end SnippetCoach
