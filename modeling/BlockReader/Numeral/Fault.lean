import BlockReader.Text.Basic
set_option autoImplicit false

namespace BlockReader

/-- Why a text or a value is no number of the wanted kind, or a number has no text. -/
inductive NumberFault where
  | notAnInteger (text : Text)
  | notADouble (text : String)
  | tooManyDigits (count : Nat)
  | tooLongToWrite
  | nanToInteger
  | infinityToInteger
  | tooLargeForDouble
  | tooLargeForCount
  deriving DecidableEq

/-- The most digits that a whole number may have in a text, be it read or written. -/
def Numeral.digitLimit : Nat := 4300

end BlockReader
