import SnippetCoach.Number.Binary64
import SnippetCoach.Text.Blank
import SnippetCoach.Text.Digit
/-! Reading numbers from text: white space around, decimal digits of any script, and single
underscores between digits. Whole numbers have a limited number of digits. -/
namespace SnippetCoach.Number
open Text

/-- White space around a number. The information separators do not count. -/
def isMargin (c : Char) : Bool :=
  isBlank c && !(0x1C ≤ c.toNat && c.toNat ≤ 0x1F)

/-- Removes underscores that stand between two digits and refuses all others. The flag says that
the character before was a digit. -/
def removeSeparators? : Bool → List Char → Option (List Char)
  | _, [] => some []
  | afterDigit, '_' :: c :: rest =>
    if afterDigit && c.isDigit then (removeSeparators? true rest).map (c :: ·) else none
  | _, c :: rest => if c = '_' then none else (removeSeparators? c.isDigit rest).map (c :: ·)

def digitsValue (digits : List Char) : Nat :=
  digits.foldl (fun n c => 10 * n + (c.toNat - '0'.toNat)) 0

/-- A sign and what follows it; a plus sign means nothing. -/
def splitSign : List Char → Bool × List Char
  | '-' :: rest => (true, rest)
  | '+' :: rest => (false, rest)
  | text => (false, text)

/-- The most digits that a whole number is read or written with. -/
def digitLimit : Nat := 4300

def fitsDigitLimit (n : Int) : Bool :=
  n.natAbs < Nat.pow 10 digitLimit

inductive NumeralError where
  | malformed
  | tooLong (digits : Nat)
  deriving DecidableEq, Repr

def tooLongMessage (digits : Nat) : String :=
  "Exceeds the limit (4300 digits) for integer string conversion: value has " ++ toString digits ++
    " digits; use sys.set_int_max_str_digits() to increase the limit"

/-- The numeral in ASCII, without margins. -/
def plainNumeral (text : List Char) : List Char :=
  asciiDigits (trimWith isMargin text)

def isDigitOrSeparator (c : Char) : Bool :=
  c.isDigit || c == '_'

/-- A whole number. Too many digits are refused before what follows them is looked at. -/
def readInt (text : List Char) : Except NumeralError Int :=
  let (negative, body) := splitSign (plainNumeral text)
  match removeSeparators? false (body.takeWhile isDigitOrSeparator) with
  | none => .error .malformed
  | some digits =>
    if digitLimit < digits.length then .error (.tooLong digits.length)
    else if digits.isEmpty || !(body.dropWhile isDigitOrSeparator).isEmpty then .error .malformed
    else .ok (signed negative (digitsValue digits))

/-- The exponent part of a number: nothing, or the letter, an optional sign and digits. -/
def readExponent? : List Char → Option Int
  | [] => some 0
  | c :: rest =>
    let (negative, digits) := splitSign rest
    if (c != 'e' && c != 'E') || digits.isEmpty || !digits.all Char.isDigit then none
    else some (signed negative (digitsValue digits))

/-- Digits with at most one point among them, and an optional exponent. -/
def readDecimal? (negative : Bool) (text : List Char) : Option Binary64 := do
  let whole := text.takeWhile Char.isDigit
  let afterWhole := text.dropWhile Char.isDigit
  let afterPoint := if afterWhole.head? = some '.' then some (afterWhole.drop 1) else none
  let fraction := (afterPoint.getD []).takeWhile Char.isDigit
  let exponent ← readExponent? ((afterPoint.map (·.dropWhile Char.isDigit)).getD afterWhole)
  if whole.isEmpty && fraction.isEmpty then none
  else some (Binary64.ofDecimal negative (digitsValue (whole ++ fraction))
    (exponent - fraction.length))

/-- A number, or one of the words for values without digits in any case. -/
def readBinary64? (text : List Char) : Option Binary64 := do
  let (negative, body) := splitSign (← removeSeparators? false (plainNumeral text))
  let word := String.ofList (body.map Char.toLower)
  if word = "inf" || word = "infinity" then some (.infinite negative)
  else if word = "nan" then some .nan
  else readDecimal? negative body

end SnippetCoach.Number
