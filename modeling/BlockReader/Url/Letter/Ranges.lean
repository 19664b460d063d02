set_option autoImplicit false

namespace BlockReader.Text

/-- Whether a character lies in one of the ranges; both ends belong to a range. -/
def inRanges (ranges : List (Nat × Nat)) (character : Char) : Bool :=
  ranges.any (fun range => decide (range.1 ≤ character.toNat ∧ character.toNat ≤ range.2))

def valueInRanges? (ranges : List (Nat × Nat × Nat)) (character : Char) : Option Nat :=
  (ranges.find? fun (first, last, _) =>
    decide (first ≤ character.toNat ∧ character.toNat ≤ last)).map (·.2.2)

end BlockReader.Text
