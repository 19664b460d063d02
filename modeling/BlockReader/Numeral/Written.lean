import BlockReader.Numeral.Fault
import BlockReader.Numeral.Shortest
set_option autoImplicit false

namespace BlockReader

def digitCharacter (value : Nat) : Char :=
  Char.ofNat (0x30 + value)

namespace Numeral

def ofNat (number : Nat) : List Char :=
  if number = 0 then ['0'] else (Radix.digits 10 number).map digitCharacter

/-- A whole number in decimal; only a negative one has a sign. -/
def ofInt (number : Int) : List Char :=
  if number < 0 then '-' :: ofNat number.natAbs else ofNat number.natAbs

def digitCount (number : Int) : Nat :=
  (ofNat number.natAbs).length

end Numeral

/-- A whole number as a text; one of too many digits has none. -/
def decimal (number : Int) : Except NumberFault String :=
  if Numeral.digitCount number ≤ Numeral.digitLimit then .ok (String.ofList (Numeral.ofInt number))
  else .error .tooLongToWrite

namespace Double

structure Layout where
  /-- The least decimal exponent written positionally. -/
  leastPositional : Int
  /-- The least decimal exponent above those written positionally. -/
  leastScientific : Int
  /-- How many digits an exponent has at least. -/
  exponentDigits : Nat
  infinity : String
  nan : String

/-- Positional from 10 to the -4 up to 10 to the 16, a whole value keeps `.0`; otherwise one digit
stands before the point and the exponent has a sign and two digits. -/
def Layout.standard : Layout := ⟨-4, 16, 2, "inf", "nan"⟩

def zeros (count : Nat) : List Char :=
  List.replicate count '0'

/-- Digits with the decimal point after the first `point` of them. -/
def positional (digits : List Char) (point : Int) : List Char :=
  if point ≤ 0 then '0' :: '.' :: (zeros (-point).toNat ++ digits)
  else if (digits.length : Int) ≤ point then
    digits ++ zeros (point - digits.length).toNat ++ ['.', '0']
  else digits.take point.toNat ++ '.' :: digits.drop point.toNat

/-- Digits with the point after the first, and an exponent. -/
def scientific (layout : Layout) (digits : List Char) (exponent : Int) : List Char :=
  let lead := match digits with
    | first :: second :: more => first :: '.' :: second :: more
    | other => other
  let size := Numeral.ofNat exponent.natAbs
  let sign := if exponent < 0 then '-' else '+'
  lead ++ 'e' :: sign :: (zeros (layout.exponentDigits - size.length) ++ size)

def write (layout : Layout) : Double → List Char
  | .nan => layout.nan.toList
  | .infinite negative => (if negative then ['-'] else []) ++ layout.infinity.toList
  | .finite negative rank =>
    let size :=
      if rank.val = 0 then ['0', '.', '0']
      else
        let short := shortest rank.val
        let digits := Numeral.ofNat short.coefficient
        let point := (digits.length : Int) + short.exponent
        if layout.leastPositional ≤ point - 1 ∧ point - 1 < layout.leastScientific then
          positional digits point
        else scientific layout digits (point - 1)
    (if negative then ['-'] else []) ++ size

def text (value : Double) : String :=
  String.ofList (write .standard value)

/-- A value with two places: the exact value rounded, a half to the even neighbour. -/
def fixedTwo : Double → List Char
  | .nan => Layout.standard.nan.toList
  | .infinite negative => (if negative then ['-'] else []) ++ Layout.standard.infinity.toList
  | .finite negative rank =>
    let (numerator, denominator) := ratio rank.val
    let hundredths := divHalfEven (numerator * 100) denominator
    (if negative then ['-'] else []) ++ Numeral.ofNat (hundredths / 100) ++
      ['.', digitCharacter (hundredths / 10 % 10), digitCharacter (hundredths % 10)]

end Double

end BlockReader
