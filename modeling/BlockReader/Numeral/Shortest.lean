import BlockReader.Numeral.Radix
import BlockReader.Numeral.Double
set_option autoImplicit false

namespace BlockReader.Double

structure Decimal where
  coefficient : Nat
  exponent : Int
  deriving DecidableEq

/-- Moves trailing zeros of the coefficient, at most `limit`, into the exponent. -/
def Decimal.trim (limit : Nat) (decimal : Decimal) : Decimal :=
  match limit with
  | 0 => decimal
  | limit + 1 =>
    if decimal.coefficient % 10 = 0 then
      Decimal.trim limit ⟨decimal.coefficient / 10, decimal.exponent + 1⟩
    else decimal

/-- Decimal places enough to see the leading digit of the least positive value. -/
private def places : Nat := 340

/-- The number of digits before the decimal point of a positive quotient; zero or less when it is
below one tenth. -/
def pointPosition (numerator denominator : Nat) : Int :=
  ((Radix.digits 10 (numerator * Nat.pow 10 places / denominator)).length : Int) - places

/-- The quotient and the remainder, with its unit, on the grid of step ten to `exponent`. -/
private def onGrid (numerator denominator : Nat) (exponent : Int) : Nat × Nat × Nat :=
  let (top, unit) :=
    if 0 ≤ exponent then (numerator, denominator * Nat.pow 10 exponent.toNat)
    else (numerator * Nat.pow 10 (-exponent).toNat, denominator)
  (top / unit, top % unit, unit)

/-- The nearer of the two grid neighbours of the value at `rank` that reads back, if one does. -/
def neighbour? (rank : Nat) (exponent : Int) : Option Decimal :=
  let (numerator, denominator) := ratio rank
  let (below, rest, unit) := onGrid numerator denominator exponent
  let readsBack (coefficient : Nat) : Bool :=
    decide (ofDecimal false coefficient exponent = ofRank false rank)
  let upperFirst := decide (unit < 2 * rest ∨ (unit = 2 * rest ∧ below % 2 = 1))
  let (first, second) := if upperFirst then (below + 1, below) else (below, below + 1)
  if readsBack first then some ⟨first, exponent⟩
  else if readsBack second then some ⟨second, exponent⟩
  else none

/-- Tries the grids of one more digit each, from `point` down; `fallback` after the last. -/
private def search (rank : Nat) (point : Int) (fallback : Decimal) : Nat → Nat → Decimal
  | _, 0 => fallback
  | count, tries + 1 =>
    match neighbour? rank (point - count) with
    | some decimal => decimal
    | none => search rank point fallback (count + 1) tries

/-- The shortest decimal that reads back as the positive finite value at a rank, and of those the
nearest: the first grid of one digit, two digits and so on that has one. Seventeen digits always
do. -/
def shortest (rank : Nat) : Decimal :=
  let (numerator, denominator) := ratio rank
  let point := pointPosition numerator denominator
  let fallback : Decimal := ⟨(onGrid numerator denominator (point - 17)).1, point - 17⟩
  Decimal.trim 20 (search rank point fallback 1 17)

end BlockReader.Double
