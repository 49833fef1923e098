import SnippetCoach.Number.Layout
import SnippetCoach.Number.Word
import SnippetCoach.Progress.Ledger
/-! Progress as text: a line with a bar for each type. -/
namespace SnippetCoach
open Number

inductive BarError where
  | arithmetic (cause : ArithmeticError)
  | tooLong
  | outOfMemory
  deriving DecidableEq, Repr

def BarError.message : BarError → String
  | arithmetic cause => cause.message
  | tooLong => "cannot fit 'int' into an index-sized integer"
  | outOfMemory => ""

/-- A run of one character. A negative count gives none. A count has to fit in a signed word, and
then in memory. -/
def repeatChar [Machine] (c : Char) (count : Int) : Except BarError (List Char) :=
  if !fitsWord count then .error .tooLong
  else if Machine.textLimit < count.toNat then .error .outOfMemory
  else .ok (List.replicate count.toNat c)

namespace Entry

/-- How many of the cells are filled: the rounded share of the width. -/
def filledCells (entry : Entry) (width : Int) : Except ArithmeticError Int := do
  let completion ← entry.completion
  let cells ← Binary64.ofInt? width
  ((completion.divNat 100).mul cells).round

/-- Filled cells first, then empty ones, between brackets. -/
def bar [Machine] (entry : Entry) (width : Int) : Except BarError (List Char) := do
  let filled ← (entry.filledCells width).mapError .arithmetic
  let full ← repeatChar '#' filled
  let rest ← repeatChar '-' (width - filled)
  return '[' :: (full ++ rest ++ [']'])

end Entry

namespace Ledger

/-- The line of a type around its bar. -/
def lineAround (bar : List Char) (name : WideText) (entry : Entry) : WideText :=
  name.capitalize ++ String.ofList
    (" Issues ".toList ++ bar ++ [' '] ++ intText entry.resolved ++ ['/'] ++
      intText entry.encountered ++ " resolved, ".toList ++ intText entry.encountered ++
      " encountered".toList)

/-- The line of a type. Counters with too many digits cannot be written. -/
def lineText [Machine] (name : WideText) (entry : Entry) (width : Int) :
    Except BarError WideText := do
  let bar ← entry.bar width
  if entry.isWritable then return lineAround bar name entry
  else .error (.arithmetic .integerTooLong)

/-- The bars of all types, or an invitation if there are none. -/
def text [Machine] (ledger : Ledger) (width : Int) : Except BarError WideText :=
  if ledger.isEmpty then .ok ("Start analyzing code to track your progress!" : String)
  else
    (ledger.entries.mapM fun (name, entry) => lineText name entry width).map fun body =>
      WideText.joinLines (("## Your Progress" : String) :: ("" : String) :: body)

def defaultWidth : Int := 20

end Ledger
end SnippetCoach
