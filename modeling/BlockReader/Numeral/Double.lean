set_option autoImplicit false

namespace BlockReader

/-- The quotient rounded to the nearest whole number, a half to the even neighbour. -/
def divHalfEven (numerator denominator : Nat) : Nat :=
  let whole := numerator / denominator
  let rest := numerator % denominator
  if 2 * rest < denominator then whole
  else if denominator < 2 * rest then whole + 1
  else whole + whole % 2

/-- A 64-bit floating-point value. A finite one is a sign and a rank: its place among the
non-negative finite values in increasing order. -/
inductive Double where
  | finite (negative : Bool) (rank : Fin (2047 <<< 52))
  | infinite (negative : Bool)
  | nan
  deriving DecidableEq, Inhabited

namespace Double

def zero (negative : Bool) : Double :=
  .finite negative ⟨0, by decide⟩

/-- The whole-number significand of the finite value at a rank. -/
def significand (rank : Nat) : Nat :=
  if rank < 1 <<< 52 then rank else 1 <<< 52 + rank % 1 <<< 52

/-- How far the binary exponent lies above the least one, 2 to the -1074. -/
def stepsUp (rank : Nat) : Nat :=
  rank >>> 52 - 1

/-- The magnitude at a rank as a numerator and a denominator. -/
def ratio (rank : Nat) : Nat × Nat :=
  let steps := stepsUp rank
  if 1074 ≤ steps then (significand rank <<< (steps - 1074), 1)
  else (significand rank, 1 <<< (1074 - steps))

/-- The value at a rank, infinite when the rank lies past the finite ones. -/
def ofRank (negative : Bool) (rank : Nat) : Double :=
  if inside : rank < 2047 <<< 52 then .finite negative ⟨rank, inside⟩ else .infinite negative

/-- The largest power of two not above a positive quotient. -/
def floorLog (numerator denominator : Nat) : Int :=
  let guess : Int := (numerator.log2 : Int) - (denominator.log2 : Int)
  let reached :=
    if 0 ≤ guess then decide (denominator <<< guess.toNat ≤ numerator)
    else decide (denominator ≤ numerator <<< (-guess).toNat)
  if reached then guess else guess - 1

/-- The value nearest to a quotient, a half to the even significand. -/
def ofRatio (negative : Bool) (numerator denominator : Nat) : Double :=
  if numerator = 0 then zero negative
  else
    let steps := (floorLog numerator denominator - 52 + 1074).toNat
    let scaled :=
      if 1074 ≤ steps then divHalfEven numerator (denominator <<< (steps - 1074))
      else divHalfEven (numerator <<< (1074 - steps)) denominator
    ofRank negative (steps <<< 52 + scaled)

/-- The value nearest to a coefficient times a power of ten. The two guards only spare the
arithmetic: what they decide lies far beyond the finite values, or far below half the least one. -/
def ofDecimal (negative : Bool) (coefficient : Nat) (exponent : Int) : Double :=
  let magnitude : Int := (coefficient.log2 * 30103 / 100000 : Nat) + exponent
  if coefficient = 0 ∨ magnitude < -400 then zero negative
  else if 400 < magnitude then .infinite negative
  else if 0 ≤ exponent then ofRatio negative (coefficient * Nat.pow 10 exponent.toNat) 1
  else ofRatio negative coefficient (Nat.pow 10 (-exponent).toNat)

def ofInt? (number : Int) : Option Double :=
  match ofRatio (decide (number < 0)) number.natAbs 1 with
  | .finite negative rank => some (.finite negative rank)
  | _ => none

def isZero : Double → Bool
  | .finite _ rank => rank.val == 0
  | _ => false

def isNegative : Double → Bool
  | .finite negative rank => negative && rank.val != 0
  | .infinite negative => negative
  | .nan => false

def isFinite : Double → Bool
  | .finite _ _ => true
  | _ => false

def truncate (negative : Bool) (rank : Nat) : Int :=
  let (numerator, denominator) := ratio rank
  let whole : Int := (numerator / denominator : Nat)
  if negative then -whole else whole

def scale (value : Double) (power : Nat) : Double :=
  match value with
  | .finite negative rank =>
    let (numerator, denominator) := ratio rank.val
    ofRatio negative (numerator <<< power) denominator
  | .infinite negative => .infinite negative
  | .nan => .nan

def negate : Double → Double
  | .finite negative rank => .finite (!negative) rank
  | .infinite negative => .infinite (!negative)
  | .nan => .nan

/-- The sum, rounded once. A sum of zeros is negative only when both are; any other exact zero is
positive. -/
def add : Double → Double → Double
  | .nan, _ => .nan
  | _, .nan => .nan
  | .infinite left, .infinite right => if left = right then .infinite left else .nan
  | .infinite left, _ => .infinite left
  | _, .infinite right => .infinite right
  | .finite left first, .finite right second =>
    let (numerator, denominator) := ratio first.val
    let (numerator', denominator') := ratio second.val
    let signed (negative : Bool) (size : Nat) : Int := if negative then -(size : Int) else size
    let total := signed left (numerator * denominator') + signed right (numerator' * denominator)
    if total = 0 then zero (left && right)
    else ofRatio (decide (total < 0)) total.natAbs (denominator * denominator')

end Double

end BlockReader
