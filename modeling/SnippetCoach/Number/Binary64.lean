import SnippetCoach.Number.Rounding
/-! Binary64 numbers as exact values: a sign, a significand below 2^53 and a power of two. Every
operation rounds the exact result once, to the nearest number and ties to even. -/
namespace SnippetCoach.Number

/-- A finite number is significand * 2^exponent. The significand has 53 bits unless the exponent
is the least, -1074. -/
inductive Binary64 where
  | nan
  | infinite (negative : Bool)
  | finite (negative : Bool) (significand : Nat) (exponent : Int)
  deriving DecidableEq, Repr

inductive ArithmeticError where
  | nanToInteger
  | infinityToInteger
  | quotientTooLarge
  | integerTooLarge
  | integerTooLong
  deriving DecidableEq, Repr

def ArithmeticError.message : ArithmeticError → String
  | nanToInteger => "cannot convert float NaN to integer"
  | infinityToInteger => "cannot convert float infinity to integer"
  | quotientTooLarge => "integer division result too large for a float"
  | integerTooLarge => "int too large to convert to float"
  | integerTooLong =>
    "Exceeds the limit (4300 digits) for integer string conversion; " ++
      "use sys.set_int_max_str_digits() to increase the limit"

namespace Binary64

def leastExponent : Int := -1074

def greatestExponent : Int := 971

def zero (negative : Bool) : Binary64 :=
  finite negative 0 leastExponent

/-- The exponent of the greatest power of two that is at most the quotient of two positive
numbers. -/
def floorLog (num den : Nat) : Int :=
  let guess := (num.log2 : Int) - den.log2
  if den * Nat.pow 2 guess.toNat ≤ num * Nat.pow 2 (-guess).toNat then guess else guess - 1

/-- The number nearest to a quotient with a positive divisor. -/
def nearest (negative : Bool) (num den : Nat) : Binary64 :=
  if num = 0 then zero negative
  else
    let exponent := max (floorLog num den - 52) leastExponent
    let significand :=
      roundQuotient (num * Nat.pow 2 (-exponent).toNat) (den * Nat.pow 2 exponent.toNat)
    let carried := significand = Nat.pow 2 53
    let exponent := if carried then exponent + 1 else exponent
    if greatestExponent < exponent then infinite negative
    else finite negative (if carried then Nat.pow 2 52 else significand) exponent

/-- The numerator of significand * 2^exponent over `powerDen`. -/
def powerNum (significand : Nat) (exponent : Int) : Nat :=
  significand * Nat.pow 2 exponent.toNat

def powerDen (exponent : Int) : Nat :=
  Nat.pow 2 (-exponent).toNat

/-- The product. Zero times infinity is no number. -/
def mul : Binary64 → Binary64 → Binary64
  | nan, _ => nan
  | _, nan => nan
  | infinite n, infinite m => infinite (n != m)
  | infinite n, finite m s _ => if s = 0 then nan else infinite (n != m)
  | finite n s _, infinite m => if s = 0 then nan else infinite (n != m)
  | finite n s e, finite m t f =>
    nearest (n != m) (powerNum s e * powerNum t f) (powerDen e * powerDen f)

/-- The quotient by a positive whole number that is itself a number of the format. -/
def divNat (x : Binary64) (divisor : Nat) : Binary64 :=
  match x with
  | finite negative s e => nearest negative (powerNum s e) (powerDen e * divisor)
  | other => other

/-- The number nearest to a whole number, unless that lies beyond the format. -/
def ofInt? (n : Int) : Except ArithmeticError Binary64 :=
  match nearest (n < 0) n.natAbs 1 with
  | infinite _ => .error .integerTooLarge
  | x => .ok x

/-- The number nearest to a quotient of whole numbers with a positive divisor. -/
def ofQuotient? (num : Int) (den : Nat) : Except ArithmeticError Binary64 :=
  match nearest (num < 0) num.natAbs den with
  | infinite _ => .error .quotientTooLarge
  | x => .ok x

def ofNat (n : Nat) : Binary64 :=
  nearest false n 1

/-- The smaller of a number and a bound; anything that is not above the bound stays. -/
def atMost (bound : Nat) (x : Binary64) : Binary64 :=
  match x with
  | infinite false => ofNat bound
  | finite false s e => if bound * powerDen e < powerNum s e then ofNat bound else x
  | _ => x

def isPositive : Binary64 → Bool
  | infinite negative => !negative
  | finite negative s _ => !negative && s != 0
  | nan => false

/-- The nearest whole number, ties to even. -/
def round : Binary64 → Except ArithmeticError Int
  | nan => .error .nanToInteger
  | infinite _ => .error .infinityToInteger
  | finite negative s e => .ok (signed negative (roundQuotient (powerNum s e) (powerDen e)))

def truncate : Binary64 → Except ArithmeticError Int
  | nan => .error .nanToInteger
  | infinite _ => .error .infinityToInteger
  | finite negative s e => .ok (signed negative (powerNum s e / powerDen e))

/-- The number nearest to digits * 10^scale. Far beyond the format at either end the power is not
computed. -/
def ofDecimal (negative : Bool) (digits : Nat) (scale : Int) : Binary64 :=
  let size := ((Nat.toDigits 10 digits).length : Int) + scale
  if digits = 0 || size < -400 then zero negative
  else if 400 < size then infinite negative
  else nearest negative (digits * Nat.pow 10 scale.toNat) (Nat.pow 10 (-scale).toNat)

end Binary64
end SnippetCoach.Number
