set_option autoImplicit false

namespace BlockReader.Text

/-- White space among all characters (the Unicode property White_Space). -/
def isBlank (character : Char) : Bool :=
  let code := character.toNat
  decide ((9 ≤ code ∧ code ≤ 13) ∨ code = 0x20 ∨ code = 0x85 ∨ code = 0xA0 ∨ code = 0x1680 ∨
    (0x2000 ≤ code ∧ code ≤ 0x200A) ∨ code = 0x2028 ∨ code = 0x2029 ∨ code = 0x202F ∨
    code = 0x205F ∨ code = 0x3000)

/-- White space among bytes: the space and the five controls from the tab to the carriage return. -/
def isBlankByte (byte : UInt8) : Bool :=
  byte == 0x20 || (decide (9 ≤ byte) && decide (byte ≤ 13))

/-- What is left of a list after removing both ends as far as they satisfy a test. -/
def strip {α : Type} (outer : α → Bool) (items : List α) : List α :=
  ((items.dropWhile outer).reverse.dropWhile outer).reverse

def splitOn (separator : Char) (characters : List Char) : List (List Char) :=
  characters.splitOnP (· == separator)

end BlockReader.Text
