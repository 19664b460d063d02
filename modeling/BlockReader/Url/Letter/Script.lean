import BlockReader.Url.Letter.Ranges
set_option autoImplicit false

namespace BlockReader.Text

/-- A script that some character of host names needs beside it. -/
inductive Script where
  | greek
  | hebrew
  | hiragana
  | katakana
  | han
  deriving DecidableEq

/-- The letters of a script. Code points that no host name has may lie inside. -/
def Script.ranges : Script → List (Nat × Nat)
  | .greek =>
    [(0x370, 0x3E1), (0x3F0, 0x3FF), (0x1D26, 0x1D2A), (0x1F00, 0x1FFE), (0xAB65, 0xAB65)]
  | .hebrew => [(0x591, 0x5F4), (0xFB1D, 0xFB4F)]
  | .hiragana => [(0x3041, 0x3096), (0x309D, 0x309F), (0x1B001, 0x1B11F), (0x1B150, 0x1B152)]
  | .katakana =>
    [(0x30A1, 0x30FA), (0x30FD, 0x30FF), (0x31F0, 0x31FF), (0x1AFF0, 0x1B000),
     (0x1B120, 0x1B122), (0x1B164, 0x1B167)]
  | .han =>
    [(0x3005, 0x3005), (0x3007, 0x3007), (0x3400, 0x4DBF), (0x4E00, 0x9FFF), (0xF900, 0xFAD9),
     (0x16FE3, 0x16FE3), (0x16FF0, 0x16FF1), (0x20000, 0x323AF)]

def Script.has (script : Script) (character : Char) : Bool :=
  inRanges script.ranges character

end BlockReader.Text
