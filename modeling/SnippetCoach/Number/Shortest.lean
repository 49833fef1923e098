import SnippetCoach.Number.Binary64
/-! The fewest decimal digits that identify a binary64 number: the first decimal grid of at most 17
digits on which a neighbour of the value reads back, and of two such neighbours the nearer. -/
namespace SnippetCoach.Number

/-- The value digits * 10^scale. -/
structure Decimal where
  digits : Nat
  scale : Int
  deriving DecidableEq, Repr

namespace Decimal

def readsBackAs (x : Binary64) (decimal : Decimal) : Bool :=
  Binary64.ofDecimal false decimal.digits decimal.scale == x

/-- Moves zeros at the end of the digits into the scale, at most so many. -/
def stripZeros : Nat → Decimal → Decimal
  | 0, decimal => decimal
  | limit + 1, decimal =>
    if decimal.digits % 10 = 0 then
      stripZeros limit { digits := decimal.digits / 10, scale := decimal.scale + 1 }
    else decimal

/-- How often a quotient below one can be multiplied by ten and stay below one; at most so
often. -/
def leadingZeros : Nat → Nat → Nat → Nat
  | 0, _, _ => 0
  | limit + 1, num, den => if num * 10 < den then leadingZeros limit (num * 10) den + 1 else 0

/-- The least power of ten that exceeds a positive quotient. -/
def magnitude (num den : Nat) : Int :=
  if den ≤ num then ((Nat.toDigits 10 (num / den)).length : Int)
  else -(leadingZeros den.log2 num den : Int)

/-- The neighbours of a quotient on the grid of a scale, the nearer first. Of two equally near the
even one is first. -/
def neighbours (num den : Nat) (scale : Int) : List Decimal :=
  let num := num * Nat.pow 10 (-scale).toNat
  let den := den * Nat.pow 10 scale.toNat
  let below := num / den
  if roundQuotient num den = below then [{ digits := below, scale }, { digits := below + 1, scale }]
  else [{ digits := below + 1, scale }, { digits := below, scale }]

/-- The first of the grids, from coarse to fine, that has a neighbour which reads back. -/
def search (x : Binary64) (num den : Nat) (scale : Int) : Nat → Option Decimal
  | 0 => none
  | limit + 1 =>
    match (neighbours num den scale).find? (readsBackAs x) with
    | some decimal => some decimal
    | none => search x num den (scale - 1) limit

/-- Every finite number has a decimal of its exact value. -/
def exact (significand : Nat) (exponent : Int) : Decimal :=
  { digits := significand * Nat.pow 2 exponent.toNat * Nat.pow 5 (-exponent).toNat
    scale := -((-exponent).toNat : Int) }

/-- The shortest decimal of a positive number significand * 2^exponent, without zeros at its
end. -/
def shortest (significand : Nat) (exponent : Int) : Decimal :=
  let num := Binary64.powerNum significand exponent
  let den := Binary64.powerDen exponent
  let found := search (.finite false significand exponent) num den (magnitude num den - 1) 17
  stripZeros 17 (found.getD (exact significand exponent))

end Decimal
end SnippetCoach.Number
