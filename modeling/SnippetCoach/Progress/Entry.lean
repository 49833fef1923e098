import SnippetCoach.Json.Value
import SnippetCoach.Number.Numeral
/-! The counters of one issue type. -/
namespace SnippetCoach
open Number

/-- Any two whole numbers, since a stored record can hold them. -/
structure Entry where
  encountered : Int
  resolved : Int
  deriving DecidableEq, Repr

inductive EntryError where
  | notAnObject
  | notANumber
  | numeral (text : WideText) (cause : NumeralError)
  | arithmetic (cause : ArithmeticError)
  deriving DecidableEq, Repr

/-- A quoted numeral is cut at 200 characters. -/
def EntryError.message : EntryError → String
  | notAnObject => "an entry is not an object"
  | notANumber => "a counter is not a number"
  | numeral text .malformed =>
    "invalid literal for int() with base 10: " ++
      String.ofList (text.quoted.take 200)
  | numeral _ (.tooLong digits) => tooLongMessage digits
  | arithmetic cause => cause.message

/-- The characters of a numeral. What is no character becomes one that no numeral has. -/
def WideText.numeral (text : WideText) : List Char :=
  text.points.map fun point => point.char?.getD '?'

/-- The whole number that a document value stands for: truth values are 0 and 1, fractions are cut
off, texts are read. -/
def Json.toCounter? : WideJson → Except EntryError Int
  | .int n => .ok n
  | .bool b => .ok (if b then 1 else 0)
  | .float x => x.truncate.mapError .arithmetic
  | .str text => (readInt text.numeral).mapError (.numeral text)
  | _ => .error .notANumber

namespace Entry

def new : Entry :=
  { encountered := 0, resolved := 0 }

/-- An absent counter is zero. -/
def ofJson? (document : WideJson) : Except EntryError Entry := do
  let .obj fields := document | .error .notAnObject
  let counter (name : WideText) := ((fields.lookup name).getD (.int 0)).toCounter?
  return { encountered := ← counter "encountered", resolved := ← counter "resolved" }

def toJson (entry : Entry) : WideJson :=
  .obj [("encountered", .int entry.encountered), ("resolved", .int entry.resolved)]

/-- The share of resolved encounters in per cent, at most 100; 0 without encounters. It fails if
the share is beyond the number format. -/
def completion (entry : Entry) : Except ArithmeticError Binary64 :=
  if entry.encountered ≤ 0 then .ok (Binary64.zero false)
  else
    (Binary64.ofQuotient? entry.resolved entry.encountered.toNat).map fun share =>
      (share.mul (Binary64.ofNat 100)).atMost 100

/-- Both counters can be written within the limit of digits. -/
def isWritable (entry : Entry) : Bool :=
  fitsDigitLimit entry.encountered && fitsDigitLimit entry.resolved

def encounter (entry : Entry) : Entry :=
  { entry with encountered := entry.encountered + 1 }

/-- Resolves so many encounters, none if the count is negative. There are never more resolved than
encountered. -/
def resolve (count : Int) (entry : Entry) : Entry :=
  { entry with resolved := min (entry.resolved + max count 0) entry.encountered }

end Entry
end SnippetCoach
