import BlockReader.Url.Letter.Mark
set_option autoImplicit false

namespace BlockReader.Text

/-- A direction; numbers are written from left to right in either kind of text, marks as what they
stand on, and neutral characters as what is around them. -/
inductive Direction where
  | left
  | right
  | number
  | arabicNumber
  | mark
  | neutral
  deriving DecidableEq

/-- Letters written from right to left; marks may lie inside. -/
def rightwardRanges : List (Nat × Nat) :=
  [(0x5D0, 0x64A), (0x66E, 0x6EF), (0x6FA, 0x8C9), (0xFE73, 0xFE73), (0x10800, 0x10D23),
   (0x10E80, 0x10FF6), (0x1E800, 0x1E959)]

def neutralRanges : List (Nat × Nat) :=
  [(0x2D, 0x2D), (0xB7, 0xB7), (0x2B9, 0x2BA), (0x2C6, 0x2CF), (0x2EC, 0x2EC), (0x375, 0x375),
   (0x200C, 0x200D), (0x2E2F, 0x2E2F), (0x30FB, 0x30FB), (0xA67F, 0xA67F), (0xA717, 0xA71F),
   (0xA788, 0xA788)]

def numberRanges : List (Nat × Nat) :=
  [(0x30, 0x39), (0x6F0, 0x6F9)]

def arabicNumberRanges : List (Nat × Nat) :=
  [(0x660, 0x669), (0x10D30, 0x10D39)]

/-- The direction of a character that may stand in the name of a host. -/
def direction (character : Char) : Direction :=
  if isNonspacingMark character then .mark
  else if inRanges arabicNumberRanges character then .arabicNumber
  else if inRanges numberRanges character then .number
  else if inRanges neutralRanges character then .neutral
  else if inRanges rightwardRanges character then .right
  else .left

end BlockReader.Text
