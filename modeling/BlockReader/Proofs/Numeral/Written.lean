import BlockReader.Numeral.Reading
import BlockReader.Proofs.Numeral.Digits
set_option autoImplicit false

namespace BlockReader

namespace Numeral

theorem isDigit_digitCharacter : ∀ value < 10, isDigit (digitCharacter value) = true := by
  decide

theorem toNat_digitCharacter : ∀ value < 10, (digitCharacter value).toNat - 0x30 = value := by
  decide

theorem toNat_of_isDigit {character : Char} (digit : isDigit character = true) :
    0x30 ≤ character.toNat ∧ character.toNat ≤ 0x39 := by
  rw [isDigit, decide_eq_true_iff, Char.le_def, Char.le_def, UInt32.le_iff_toNat_le,
    UInt32.le_iff_toNat_le] at digit
  exact digit

theorem digitCharacter_ne_zero :
    ∀ value < 10, value ≠ 0 → digitCharacter value ≠ '0' := by
  decide

theorem ofNat_ne_nil (number : Nat) : ofNat number ≠ [] := by
  rw [ofNat]
  split
  · exact List.cons_ne_nil _ _
  · rename_i positive
    intro empty
    rw [List.map_eq_nil_iff] at empty
    have same := Radix.value_digits 10 (by decide) number
    rw [empty] at same
    exact positive same.symm

theorem isDigit_of_mem_ofNat {number : Nat} {character : Char} (listed : character ∈ ofNat number) :
    isDigit character = true := by
  rw [ofNat] at listed
  split at listed
  · rw [List.mem_singleton.mp listed]
    decide
  · obtain ⟨digit, written, rfl⟩ := List.mem_map.mp listed
    exact isDigit_digitCharacter digit (Radix.digits_lt 10 (by decide) number digit written)

/-- A number that is written counts up to itself. -/
theorem ofDigits_ofNat (number : Nat) : ofDigits (ofNat number) = number := by
  have kept : (ofNat number).filter isDigit = ofNat number :=
    List.filter_eq_self.mpr fun _ listed => isDigit_of_mem_ofNat listed
  rw [ofDigits, kept, ofNat]
  split
  · rename_i zero
    rw [zero]
    rfl
  · have values : ((Radix.digits 10 number).map digitCharacter).map
        (fun digit => digit.toNat - 0x30) = Radix.digits 10 number := by
      rw [List.map_map]
      calc (Radix.digits 10 number).map ((fun digit => digit.toNat - 0x30) ∘ digitCharacter)
          = (Radix.digits 10 number).map id := by
            apply List.map_congr_left
            intro digit written
            exact toNat_digitCharacter digit (Radix.digits_lt 10 (by decide) number digit written)
        _ = Radix.digits 10 number := List.map_id _
    rw [values, Radix.value_digits 10 (by decide)]

/-- The digits of a positive number do not start with a zero. -/
theorem head?_ofNat_ne_zero {number : Nat} (positive : number ≠ 0) :
    (ofNat number).head? ≠ some '0' := by
  rw [ofNat, if_neg positive, List.head?_map]
  intro zero
  obtain ⟨digit, first, same⟩ := Option.map_eq_some_iff.mp zero
  have below : digit < 10 :=
    Radix.digits_lt 10 (by decide) number digit (List.mem_of_head? first)
  have notZero : digit ≠ 0 := by
    rintro rfl
    exact Radix.head?_digits_ne_zero 10 (by decide) number first
  exact digitCharacter_ne_zero digit below notZero same

end Numeral

end BlockReader
