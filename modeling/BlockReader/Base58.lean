import BlockReader.Numeral.Radix
set_option autoImplicit false

namespace BlockReader.Base58

def alphabet : List Char :=
  "123456789ABCDEFGHJKLMNPQRSTUVWXYZabcdefghijkmnopqrstuvwxyz".toList

def digit (value : Nat) : Char :=
  alphabet.getD value '1'

def digitValue? (character : Char) : Option Nat :=
  alphabet.idxOf? character

/-- Bytes as one big number in base 58. Leading zero bytes, which a number would lose, are written
as leading `1`s. -/
def encode (bytes : List UInt8) : List Char :=
  let leading := (bytes.takeWhile (· == 0)).length
  let number := Radix.value 256 (bytes.map UInt8.toNat)
  List.replicate leading '1' ++ (Radix.digits 58 number).map digit

/-- The bytes that a text spells; none when a character is no digit. -/
def decode? (text : List Char) : Option (List UInt8) :=
  (text.mapM digitValue?).map fun values =>
    let leading := (values.takeWhile (· == 0)).length
    let number := Radix.value 58 values
    List.replicate leading 0 ++ (Radix.digits 256 number).map UInt8.ofNat

end BlockReader.Base58
