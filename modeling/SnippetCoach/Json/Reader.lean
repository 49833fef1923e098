import SnippetCoach.Json.Value
import SnippetCoach.Number.Numeral
/-! Reading documents. White space is blank, tab, line feed and carriage return; strings hold no
control characters; a number with a point or an exponent is binary64, any other is exact; the words
for values without digits are accepted. Nesting and the digits of exact numbers are limited. The
first error of the text counts. -/
namespace SnippetCoach.Json
open Number

inductive Container where
  | array
  | object
  deriving DecidableEq, Repr

inductive ReadError where
  | malformed
  | tooLong (digits : Nat)
  | tooDeep (container : Container)
  deriving DecidableEq, Repr

def Container.name : Container → String
  | array => "array"
  | object => "object"

def ReadError.message : ReadError → String
  | malformed => "malformed document"
  | tooLong digits => tooLongMessage digits
  | tooDeep container =>
    "maximum recursion depth exceeded while decoding a JSON " ++ container.name ++
      " from a unicode string"

/-- A result, or the text is malformed. -/
def orMalformed {α : Type} (result : Option α) : Except ReadError α :=
  result.elim (.error .malformed) .ok

def isSpace : CodePoint → Bool
  | .char c => c == ' ' || c == '\t' || c == '\n' || c == '\r'
  | .half _ => false

def skipSpace (text : List CodePoint) : List CodePoint :=
  text.dropWhile isSpace

def hexValue? (c : Char) : Option Nat :=
  if '0' ≤ c ∧ c ≤ '9' then some (c.toNat - '0'.toNat)
  else if 'a' ≤ c ∧ c ≤ 'f' then some (c.toNat - 'a'.toNat + 10)
  else if 'A' ≤ c ∧ c ≤ 'F' then some (c.toNat - 'A'.toNat + 10)
  else none

def unitValue? (a b c d : Char) : Option Nat := do
  return 4096 * (← hexValue? a) + 256 * (← hexValue? b) + 16 * (← hexValue? c) + (← hexValue? d)

def escapeValue? (c : Char) : Option Char :=
  if c = '"' ∨ c = '\\' ∨ c = '/' then some c
  else if c = 'n' then some '\n'
  else if c = 'r' then some '\r'
  else if c = 't' then some '\t'
  else if c = 'b' then some (Char.ofNat 8)
  else if c = 'f' then some (Char.ofNat 12)
  else none

/-- A unit by four digits, and what follows them. -/
def readUnit? : List CodePoint → Option (Nat × List CodePoint)
  | .char a :: .char b :: .char c :: .char d :: rest => (unitValue? a b c d).map (·, rest)
  | _ => none

/-- What a unit is on its own. -/
def ofUnit (unit : Nat) : CodePoint :=
  if 0xD800 ≤ unit ∧ unit < 0xE000 then .half (Fin.ofNat 0x800 (unit - 0xD800))
  else .char (Char.ofNat unit)

/-- The character of a pair of units. -/
def pairedUnits? (high low : Nat) : Option Char :=
  if 0xD800 ≤ high ∧ high < 0xDC00 ∧ 0xDC00 ≤ low ∧ low < 0xE000 then
    some (Char.ofNat (0x10000 + (high - 0xD800) * 0x400 + (low - 0xDC00)))
  else none

/-- The character of a unit and the escape after it, and what follows that. -/
def readPaired? (unit : Nat) : List CodePoint → Option (Char × List CodePoint)
  | .char '\\' :: .char 'u' :: rest => do
    let (low, rest) ← readUnit? rest
    return (← pairedUnits? unit low, rest)
  | _ => none

/-- A code point given by a unit, or by two if they are a pair; what follows the letter of an
escape. -/
def readEscapedUnit? (text : List CodePoint) : Option (CodePoint × List CodePoint) := do
  let (unit, rest) ← readUnit? text
  return ((readPaired? unit rest).map fun (c, rest) => (.char c, rest)).getD (ofUnit unit, rest)

/-- The characters that stand for themselves inside a string. -/
def isPlain (c : Char) : Bool :=
  !(c = '\\' || c = '"' || c.toNat < 0x20)

/-- The first code point of the rest of a string, escapes resolved, and what follows it. Halves of
pairs stand for themselves. -/
def readPoint? : List CodePoint → Option (CodePoint × List CodePoint)
  | .char '\\' :: .char 'u' :: rest => readEscapedUnit? rest
  | .char '\\' :: .char c :: rest => (escapeValue? c).map (.char ·, rest)
  | .char c :: rest => if isPlain c then some (.char c, rest) else none
  | .half offset :: rest => some (.half offset, rest)
  | [] => none

/-- The code points up to the closing quote, and what follows it. -/
def readString? : Nat → List CodePoint → Option (List CodePoint × List CodePoint)
  | _, .char '"' :: rest => some ([], rest)
  | 0, _ => none
  | fuel + 1, text => do
    let (point, rest) ← readPoint? text
    let (points, rest) ← readString? fuel rest
    return (point :: points, rest)

/-- The fraction of a number: a point and at least one digit, or nothing. -/
def splitFraction : List Char → List Char × List Char
  | '.' :: rest =>
    if (rest.takeWhile Char.isDigit).isEmpty then ([], '.' :: rest)
    else (rest.takeWhile Char.isDigit, rest.dropWhile Char.isDigit)
  | text => ([], text)

/-- The exponent of a number: a letter, an optional sign and at least one digit, or nothing. -/
def splitExponent (text : List Char) : Option Int × List Char :=
  match text with
  | c :: rest =>
    let (negative, digits) := splitSign rest
    if (c == 'e' || c == 'E') && !(digits.takeWhile Char.isDigit).isEmpty then
      (some (signed negative (digitsValue (digits.takeWhile Char.isDigit))),
        digits.dropWhile Char.isDigit)
    else (none, text)
  | [] => (none, text)

/-- The whole part of a number: zero alone, or digits that begin with another digit. -/
def splitWhole? : List Char → Option (List Char × List Char)
  | '0' :: rest => some (['0'], rest)
  | text =>
    if (text.takeWhile Char.isDigit).isEmpty then none
    else some (text.takeWhile Char.isDigit, text.dropWhile Char.isDigit)

def readNumber (negative : Bool) (text : List Char) :
    Except ReadError (WideJson × List Char) := do
  let (whole, afterWhole) ← orMalformed (splitWhole? text)
  let (fraction, afterFraction) := splitFraction afterWhole
  let (exponent, rest) := splitExponent afterFraction
  if !fraction.isEmpty || exponent.isSome then
    return (float (Binary64.ofDecimal negative (digitsValue (whole ++ fraction))
      (exponent.getD 0 - fraction.length)), rest)
  else if digitLimit < whole.length then .error (.tooLong whole.length)
  else return (int (signed negative (digitsValue whole)), rest)

def words : List (String × WideJson) :=
  [("null", null), ("true", bool true), ("false", bool false), ("NaN", float .nan),
    ("Infinity", float (.infinite false)), ("-Infinity", float (.infinite true))]

def readWord? (text : List Char) : Option (WideJson × List Char) :=
  words.findSome? fun (word, value) => (word.toList.isPrefixOf? text).map (value, ·)

/-- A value that is no string and no container, at the start of a text in characters. -/
def readPlain (text : List Char) : Except ReadError (WideJson × List Char) :=
  match readWord? text, text with
  | some result, _ => .ok result
  | none, '-' :: rest => readNumber true rest
  | none, _ => readNumber false text

/-- A value that is no string and no container. It is over at the first half of a pair. -/
def readScalar (text : List CodePoint) : Except ReadError (WideJson × List CodePoint) := do
  let (before, after) := WideText.splitChars text
  let (value, rest) ← readPlain before
  return (value, codePoints rest ++ after)

mutual
/-- The value at the start of a text and what follows it. The fuel bounds the steps, two for each
code point, and so many more containers can be opened within each other. -/
def readValue : Nat → Nat → List CodePoint → Except ReadError (WideJson × List CodePoint)
  | 0, _, _ => .error .malformed
  | fuel + 1, levels, text =>
    match levels, text with
    | _, .char '"' :: rest => do
      let (points, rest) ← orMalformed (readString? fuel rest)
      return (str { points }, rest)
    | 0, .char '[' :: _ => .error (.tooDeep .array)
    | 0, .char '\x7b' :: _ => .error (.tooDeep .object)
    | levels + 1, .char '[' :: rest =>
      match skipSpace rest with
      | .char ']' :: rest => .ok (arr [], rest)
      | inner => do
        let (items, rest) ← readItems fuel levels inner
        return (arr items, rest)
    | levels + 1, .char '\x7b' :: rest =>
      match skipSpace rest with
      | .char '\x7d' :: rest => .ok (obj [], rest)
      | inner => do
        let (fields, rest) ← readFields fuel levels inner
        return (ofMap (OrderedMap.ofList fields), rest)
    | _, _ => readScalar text

def readItems : Nat → Nat → List CodePoint → Except ReadError (List WideJson × List CodePoint)
  | 0, _, _ => .error .malformed
  | fuel + 1, levels, text => do
    let (item, rest) ← readValue fuel levels text
    match skipSpace rest with
    | .char ']' :: rest => return ([item], rest)
    | .char ',' :: rest =>
      let (items, rest) ← readItems fuel levels (skipSpace rest)
      return (item :: items, rest)
    | _ => .error .malformed

def readFields :
    Nat → Nat → List CodePoint → Except ReadError (List (WideText × WideJson) × List CodePoint)
  | 0, _, _ => .error .malformed
  | fuel + 1, levels, text =>
    match text with
    | .char '"' :: rest => do
      let (points, rest) ← orMalformed (readString? fuel rest)
      match skipSpace rest with
      | .char ':' :: rest =>
        let (value, rest) ← readValue fuel levels (skipSpace rest)
        match skipSpace rest with
        | .char '\x7d' :: rest => return ([({ points }, value)], rest)
        | .char ',' :: rest =>
          let (fields, rest) ← readFields fuel levels (skipSpace rest)
          return (({ points }, value) :: fields, rest)
        | _ => .error .malformed
      | _ => .error .malformed
    | _ => .error .malformed
end

/-- The document that a text is, white space around it apart. So many containers can be open at
once. -/
def read (levels : Nat) (text : List CodePoint) : Except ReadError WideJson := do
  let (value, rest) ← readValue (2 * text.length + 1) levels (skipSpace text)
  if (skipSpace rest).isEmpty then return value else .error .malformed

end SnippetCoach.Json
