set_option autoImplicit false

namespace BlockReader.Text

/-- Splits at the last of the given characters, which is dropped. -/
def splitAtLast? (separator : Char) (characters : List Char) : Option (List Char × List Char) :=
  if characters.contains separator then
    let backwards := characters.reverse
    some (((backwards.dropWhile (· != separator)).drop 1).reverse,
      (backwards.takeWhile (· != separator)).reverse)
  else none

def holds (part : List Char) : List Char → Bool
  | [] => part.isEmpty
  | character :: rest => part.isPrefixOf (character :: rest) || holds part rest

def isAscii (characters : List Char) : Bool :=
  characters.all (fun character => decide (character.toNat < 0x80))

end BlockReader.Text
