import BlockReader.Proofs.Numeral.Written
set_option autoImplicit false

namespace BlockReader

namespace Numeral

theorem digitCount_le {number : Int} {places : Nat} (positive : 0 < places)
    (small : number.natAbs < 10 ^ places) : digitCount number ≤ places := by
  rw [digitCount, ofNat]
  split
  · exact positive
  · rw [List.length_map]
    exact Radix.length_digits_le 10 (by decide) _ _ small

theorem ofDigits_lt (characters : List Char) :
    ofDigits characters < 10 ^ (characters.filter isDigit).length := by
  rw [ofDigits, ← List.length_map (fun digit : Char => digit.toNat - 0x30)]
  apply Radix.value_lt 10 (by decide)
  intro value written
  obtain ⟨digit, kept, rfl⟩ := List.mem_map.mp written
  have range := toNat_of_isDigit (List.mem_filter.mp kept).2
  omega

theorem digitCount_le_limit {number : Int} {places : Nat} (small : number.natAbs < 10 ^ places)
    (few : places ≤ digitLimit) : digitCount number ≤ digitLimit := by
  apply digitCount_le (by decide)
  exact Nat.lt_of_lt_of_le small (Nat.pow_le_pow_right (by decide) few)

/-- A number of five digits at most is short, as codes, statuses and small counts are. -/
theorem digitCount_of_small {number : Int} (small : number.natAbs < 10 ^ 5) :
    digitCount number ≤ digitLimit :=
  digitCount_le_limit small (by decide)

theorem natAbs_lt (number : Int) : number.natAbs < 10 ^ digitCount number := by
  have small := ofDigits_lt (ofNat number.natAbs)
  rw [ofDigits_ofNat] at small
  exact small.trans_le (Nat.pow_le_pow_right (by decide) (List.length_filter_le _ _))

theorem lt_digitCount {number : Int} {places : Nat} (large : 10 ^ places ≤ number.natAbs) :
    places < digitCount number :=
  (Nat.pow_lt_pow_iff_right (by decide)).mp (Nat.lt_of_le_of_lt large (natAbs_lt number))

/-- What lies below a short number is short. -/
theorem digitCount_le_limit_of_le {small large : Int} (below : small.natAbs ≤ large.natAbs)
    (short : digitCount large ≤ digitLimit) : digitCount small ≤ digitLimit :=
  digitCount_le_limit (Nat.lt_of_le_of_lt below (natAbs_lt large)) short

/-- What few digits write is short, whatever its sign. -/
theorem digitCount_ofDigits_le (negative : Bool) {characters : List Char}
    (few : (characters.filter isDigit).length ≤ digitLimit) :
    digitCount (if negative then -(ofDigits characters : Int) else ofDigits characters) ≤
      digitLimit := by
  have small := ofDigits_lt characters
  apply digitCount_le_limit _ few
  cases negative
  · exact small
  · rw [if_pos rfl, Int.natAbs_neg]
    exact small

theorem digitCount_le_of_readInt {text : Text} {number : Int}
    (was : readInt text = .ok number) : digitCount number ≤ digitLimit := by
  unfold readInt at was
  dsimp only at was
  split at was
  · cases was
  · split at was
    · cases was
    · rename_i few
      split at was
      · cases was
        exact digitCount_ofDigits_le _ (Nat.le_of_not_lt few)
      · cases was

end Numeral

namespace Double

theorem significand_lt (rank : Nat) : significand rank < 2 ^ 53 := by
  have fraction : rank % 1 <<< 52 < 1 <<< 52 := Nat.mod_lt rank (by decide)
  rw [significand]
  split <;> omega

/-- A finite value lies below 2 to the 1024. -/
theorem ratio_lt (rank : Fin (2047 <<< 52)) {power : Nat} (enough : 1024 ≤ power) :
    (ratio rank.val).1 / (ratio rank.val).2 < 2 ^ power := by
  have steps : stepsUp rank.val - 1074 ≤ 971 := by
    have inside := rank.isLt
    rw [stepsUp]
    omega
  have small := significand_lt rank.val
  rw [ratio]
  split
  · rw [Nat.div_one, Nat.shiftLeft_eq]
    calc significand rank.val * 2 ^ (stepsUp rank.val - 1074)
        < 2 ^ 53 * 2 ^ (stepsUp rank.val - 1074) :=
          Nat.mul_lt_mul_of_pos_right small (Nat.two_pow_pos _)
      _ = 2 ^ (53 + (stepsUp rank.val - 1074)) := (Nat.pow_add ..).symm
      _ ≤ 2 ^ power := Nat.pow_le_pow_right (by decide) (by omega)
  · calc significand rank.val / _ ≤ significand rank.val := Nat.div_le_self _ _
      _ < 2 ^ 53 := small
      _ ≤ 2 ^ power := Nat.pow_le_pow_right (by decide) (by omega)

theorem natAbs_truncate (negative : Bool) (rank : Nat) :
    (truncate negative rank).natAbs = (ratio rank).1 / (ratio rank).2 := by
  cases negative
  · rfl
  · exact Int.natAbs_neg _

theorem digitCount_le_of_wholePart {value : Double} {number : Int}
    (is : Numeral.wholePart value = .ok number) :
    Numeral.digitCount number ≤ Numeral.digitLimit := by
  cases value with
  | finite negative rank =>
    cases is
    apply Numeral.digitCount_le (by decide)
    rw [natAbs_truncate]
    exact Nat.lt_of_lt_of_le (ratio_lt rank (by decide)) (Nat.pow_le_pow_left (by decide) _)
  | infinite negative => cases is
  | nan => cases is

end Double

end BlockReader
