import SnippetCoach.Number.Shortest
/-! How numbers are written: whole numbers in decimal, binary64 numbers with the fewest digits
that identify them or with a fixed number of places. -/
namespace SnippetCoach.Number

def natDigits (n : Nat) : List Char :=
  Nat.toDigits 10 n

def intText (n : Int) : List Char :=
  if n < 0 then '-' :: natDigits n.natAbs else natDigits n.natAbs

/-- The decisions of a number format: where positional notation ends on either side, and the words
for values that have no digits. -/
structure NumberFormat where
  /-- positional from this power of ten on -/
  leastPositional : Int
  /-- positional below this power of ten -/
  positionalLimit : Int
  infinity : String
  nan : String

namespace NumberFormat

/-- In messages: positional from 0.0001 up to below 10^16. -/
def message : NumberFormat :=
  { leastPositional := -4, positionalLimit := 16, infinity := "inf", nan := "nan" }

/-- In documents: the same digits, with the words that a document reader accepts. -/
def document : NumberFormat :=
  { message with infinity := "Infinity", nan := "NaN" }

/-- At least two digits and always a sign. -/
def exponentText (exponent : Int) : List Char :=
  let digits := natDigits exponent.natAbs
  'e' :: (if exponent < 0 then '-' else '+') ::
    (if digits.length < 2 then '0' :: digits else digits)

/-- Lays out digits of which the first stands for the given power of ten. A positional number
always has a point. -/
def layOut (format : NumberFormat) (digits : List Char) (power : Int) : List Char :=
  if format.leastPositional ≤ power && power < format.positionalLimit then
    if power < 0 then
      '0' :: '.' :: (List.replicate (-power - 1).toNat '0' ++ digits)
    else
      let whole := power.toNat + 1
      let padded := digits ++ List.replicate (whole - digits.length) '0'
      let fraction := padded.drop whole
      padded.take whole ++ '.' :: (if fraction.isEmpty then ['0'] else fraction)
  else
    let fraction := digits.drop 1
    digits.take 1 ++ (if fraction.isEmpty then [] else '.' :: fraction) ++ exponentText power

/-- The fewest digits that read back. -/
def write (format : NumberFormat) : Binary64 → List Char
  | .nan => format.nan.toList
  | .infinite negative =>
    (if negative then ['-'] else []) ++ format.infinity.toList
  | .finite negative significand exponent =>
    (if negative then ['-'] else []) ++
      if significand = 0 then format.layOut ['0'] 0
      else
        let decimal := Decimal.shortest significand exponent
        let digits := natDigits decimal.digits
        format.layOut digits (decimal.scale + digits.length - 1)

end NumberFormat

/-- The number with a fixed count of places. The exact value is rounded, ties to even, and the sign
of a negative number stays when it rounds to zero. -/
def fixedPlaces (places : Nat) : Binary64 → List Char
  | .nan => "nan".toList
  | .infinite negative => (if negative then ['-'] else []) ++ "inf".toList
  | .finite negative significand exponent =>
    let units := roundQuotient (Binary64.powerNum significand exponent * Nat.pow 10 places)
      (Binary64.powerDen exponent)
    let digits := natDigits units
    let padded := List.replicate (places + 1 - digits.length) '0' ++ digits
    let whole := padded.length - places
    (if negative then ['-'] else []) ++ padded.take whole ++
      (if places = 0 then [] else '.' :: padded.drop whole)

end SnippetCoach.Number
