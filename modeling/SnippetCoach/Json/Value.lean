import SnippetCoach.Number.Binary64
import SnippetCoach.Number.Numeral
import SnippetCoach.OrderedMap
import SnippetCoach.WideText
/-! Document values. Whole numbers are exact and kept apart from binary64 numbers; the fields of an
object have an order. -/
namespace SnippetCoach
open Number

/-- Texts and names are of one type, strings unless another is named. -/
inductive Json (τ : Type := String) where
  | null
  | bool (b : Bool)
  | int (n : Int)
  | float (x : Binary64)
  | str (s : τ)
  | arr (items : List (Json τ))
  | obj (fields : List (τ × Json τ))
  deriving Repr

/-- What is read from documents. -/
abbrev WideJson := Json WideText

namespace Json

section Equality

variable {τ : Type} [BEq τ]

mutual
def beq : Json τ → Json τ → Bool
  | null, null => true
  | bool a, bool b => a == b
  | int a, int b => a == b
  | float a, float b => a == b
  | str a, str b => a == b
  | arr a, arr b => beqItems a b
  | obj a, obj b => beqFields a b
  | _, _ => false

def beqItems : List (Json τ) → List (Json τ) → Bool
  | [], [] => true
  | a :: as, b :: bs => beq a b && beqItems as bs
  | _, _ => false

def beqFields : List (τ × Json τ) → List (τ × Json τ) → Bool
  | [], [] => true
  | (k, a) :: as, (l, b) :: bs => k == l && beq a b && beqFields as bs
  | _, _ => false
end

instance : BEq (Json τ) := ⟨beq⟩

end Equality

/-- Absent, false, zero and empty values, which stand for no value where one is optional. -/
def isEmptyValue : Json → Bool
  | null => true
  | bool b => !b
  | int n => n == 0
  | float (.finite _ significand _) => significand == 0
  | float _ => false
  | str s => s.isEmpty
  | arr items => items.isEmpty
  | obj fields => fields.isEmpty

def field? : Json → String → Option Json
  | obj fields, name => fields.lookup name
  | _, _ => none

def toMap? {τ : Type} [DecidableEq τ] : Json τ → Option (OrderedMap (Json τ) τ)
  | obj fields => some (OrderedMap.ofList fields)
  | _ => none

def ofMap {τ : Type} (m : OrderedMap (Json τ) τ) : Json τ :=
  obj m.entries

/-- An object without the fields that have no value. -/
def ofFields (fields : List (String × Option Json)) : Json :=
  obj (fields.filterMap fun (name, value) => value.map (name, ·))

mutual
/-- The value with its texts as code points. -/
def wide : Json → WideJson
  | null => null
  | bool b => bool b
  | int n => int n
  | float x => float x
  | str s => str s
  | arr items => arr (wideItems items)
  | obj fields => obj (wideFields fields)

def wideItems : List Json → List WideJson
  | [] => []
  | item :: rest => item.wide :: wideItems rest

def wideFields : List (String × Json) → List (WideText × WideJson)
  | [] => []
  | (name, value) :: rest => (↑name, value.wide) :: wideFields rest
end

mutual
/-- All whole numbers in the value can be written within the limit of digits. -/
def isWritable : Json → Bool
  | int n => fitsDigitLimit n
  | arr items => areWritable items
  | obj fields => fieldsWritable fields
  | _ => true

def areWritable : List Json → Bool
  | [] => true
  | item :: rest => item.isWritable && areWritable rest

def fieldsWritable : List (String × Json) → Bool
  | [] => true
  | (_, value) :: rest => value.isWritable && fieldsWritable rest
end

end Json
end SnippetCoach
