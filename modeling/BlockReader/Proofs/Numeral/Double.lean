import BlockReader.Numeral.Reading
import Mathlib.Algebra.Order.Ring.Nat
import Mathlib.Tactic.Ring
set_option autoImplicit false

namespace BlockReader.Double

theorem floorLog_one (number : Nat) (positive : number ≠ 0) :
    floorLog number 1 = (number.log2 : Int) := by
  have reached : 1 <<< number.log2 ≤ number := by
    rw [Nat.one_shiftLeft]
    exact Nat.log2_self_le positive
  have guess : (number.log2 : Int) - ((1 : Nat).log2 : Int) = number.log2 := by
    rw [show (1 : Nat).log2 = 0 by decide, Int.natCast_zero, Int.sub_zero]
  rw [floorLog]
  simp only [guess, Int.natCast_nonneg, ↓reduceIte, Int.toNat_natCast, reached, decide_true]

theorem divHalfEven_one (number : Nat) : divHalfEven number 1 = number := by
  rw [divHalfEven]
  simp only [Nat.div_one, Nat.mod_one, Nat.mul_zero, Nat.zero_lt_one, ↓reduceIte]

theorem divHalfEven_le (numerator denominator : Nat) :
    divHalfEven numerator denominator ≤ numerator / denominator + 1 := by
  rw [divHalfEven]
  split
  · omega
  · split <;> omega

/-- The significand that a whole number is rounded to: at most one past the largest. -/
theorem scaled_le (number steps : Nat)
    (placed : steps = number.log2 + 1022) :
    (if 1074 ≤ steps then divHalfEven number (1 <<< (steps - 1074))
      else divHalfEven (number <<< (1074 - steps)) 1) ≤ 2 ^ 53 := by
  have below : number < 2 ^ (number.log2 + 1) := Nat.lt_log2_self
  split
  · rename_i large
    have split : number.log2 + 1 = steps - 1074 + 53 := by omega
    rw [split, Nat.pow_add] at below
    have quotient : number / 2 ^ (steps - 1074) < 2 ^ 53 := Nat.div_lt_of_lt_mul below
    rw [Nat.one_shiftLeft]
    exact Nat.le_trans (divHalfEven_le _ _) quotient
  · rename_i small
    have split : 53 = number.log2 + 1 + (1074 - steps) := by omega
    rw [divHalfEven_one, Nat.shiftLeft_eq, split, Nat.pow_add]
    exact Nat.mul_le_mul_right _ (Nat.le_of_lt below)

theorem ofRatio_one_eq_finite (negative : Bool) (number : Nat) (small : number < 2 ^ 1023) :
    ∃ rank, ofRatio negative number 1 = .finite negative rank := by
  rw [ofRatio]
  split
  · exact ⟨_, rfl⟩
  · rename_i positive
    have power : 2 ^ number.log2 < 2 ^ 1023 := lt_of_le_of_lt (Nat.log2_self_le positive) small
    have log : number.log2 < 1023 := (pow_lt_pow_iff_right₀ one_lt_two).mp power
    have steps : (floorLog number 1 - 52 + 1074).toNat = number.log2 + 1022 := by
      rw [floorLog_one number positive]
      omega
    have bound := scaled_le number _ steps
    dsimp only
    generalize (if 1074 ≤ _ then _ else _ : Nat) = scaled at bound ⊢
    have inside : (floorLog number 1 - 52 + 1074).toNat <<< 52 + scaled < 2047 <<< 52 := by
      omega
    exact ⟨⟨_, inside⟩, dif_pos inside⟩

/-- A quotient is rounded to at most an odd number exactly when it lies less than a half above it:
half-way it is rounded up. -/
theorem divHalfEven_le_odd_iff (numerator denominator last : Nat) (odd : last % 2 = 1)
    (positive : 0 < denominator) : divHalfEven numerator denominator ≤ last ↔
      2 * numerator < (2 * last + 1) * denominator := by
  have parted : denominator * (numerator / denominator) + numerator % denominator = numerator :=
    Nat.div_add_mod numerator denominator
  have small : numerator % denominator < denominator := Nat.mod_lt numerator positive
  have middle : (2 * last + 1) * denominator = 2 * (denominator * last) + denominator := by ring
  rw [divHalfEven, middle]
  generalize numerator / denominator = whole at parted ⊢
  generalize numerator % denominator = rest at parted small ⊢
  -- Only at the odd number itself the rest matters.
  rcases Nat.lt_trichotomy whole last with below | rfl | above
  · have room : denominator * (whole + 1) ≤ denominator * last := Nat.mul_le_mul_left _ below
    rw [Nat.mul_succ] at room
    split
    · omega
    split <;> omega
  · split
    · omega
    split <;> omega
  · have past : denominator * (last + 1) ≤ denominator * whole := Nat.mul_le_mul_left _ above
    rw [Nat.mul_succ] at past
    split
    · omega
    split <;> omega

theorem le_divHalfEven (numerator denominator : Nat) :
    numerator / denominator ≤ divHalfEven numerator denominator := by
  rw [divHalfEven]
  split
  · omega
  · split <;> omega

theorem ofRank_isFinite_iff (negative : Bool) (rank : Nat) :
    (ofRank negative rank).isFinite = true ↔ rank < 2047 <<< 52 := by
  rw [ofRank]
  split
  · rename_i inside
    exact ⟨fun _ => inside, fun _ => rfl⟩
  · rename_i outside
    exact ⟨nofun, fun inside => absurd inside outside⟩

theorem ofRatio_one_of_large (negative : Bool) (number : Nat) (large : 1023 ≤ number.log2) :
    ofRatio negative number 1 = ofRank negative
      ((number.log2 + 1022) <<< 52 + divHalfEven number (2 ^ (number.log2 - 52))) := by
  have positive : number ≠ 0 := by
    rintro rfl
    exact absurd large (by decide)
  have steps : (floorLog number 1 - 52 + 1074).toNat = number.log2 + 1022 := by
    rw [floorLog_one number positive]
    omega
  have shift : number.log2 + 1022 - 1074 = number.log2 - 52 := by omega
  rw [ofRatio, if_neg positive]
  dsimp only
  rw [steps, if_pos (by omega), shift, Nat.one_shiftLeft]

/-- The least magnitude that no floating-point value is near to: half a step past the largest. -/
def wholeLimit : Nat := 2 ^ 1024 - 2 ^ 970

/-- The largest significand. -/
def largestSignificand : Nat := 1 <<< 53 - 1

theorem two_mul_wholeLimit : 2 * wholeLimit = (2 * largestSignificand + 1) * 2 ^ 971 := by
  decide +kernel

theorem two_pow_le_wholeLimit : 2 ^ 1023 ≤ wholeLimit := by
  decide +kernel

/-- Whole numbers below the limit have a finite value near them, and no others. -/
theorem ofRatio_one_isFinite_iff (negative : Bool) (number : Nat) :
    (ofRatio negative number 1).isFinite = true ↔ number < wholeLimit := by
  rcases Nat.lt_trichotomy number.log2 1023 with small | last | past
  · have below : number < 2 ^ 1023 :=
      lt_of_lt_of_le Nat.lt_log2_self (pow_le_pow_right₀ one_le_two small)
    obtain ⟨rank, finite⟩ := ofRatio_one_eq_finite negative number below
    rw [finite]
    exact ⟨fun _ => lt_of_lt_of_le below two_pow_le_wholeLimit, fun _ => rfl⟩
  · have rounded := divHalfEven_le_odd_iff number (2 ^ (number.log2 - 52)) largestSignificand
      (by decide) (Nat.two_pow_pos _)
    have middle : (2 * largestSignificand + 1) * 2 ^ (number.log2 - 52) = 2 * wholeLimit := by
      rw [last, show 1023 - 52 = 971 by decide, two_mul_wholeLimit]
    rw [middle] at rounded
    rw [ofRatio_one_of_large negative number last.ge, ofRank_isFinite_iff]
    -- The closed powers are hidden, since omega would compare them by their values.
    generalize divHalfEven number _ = scaled at rounded ⊢
    generalize wholeLimit = limit at rounded ⊢
    rw [largestSignificand] at rounded
    omega
  · have positive : number ≠ 0 := by
      rintro rfl
      exact absurd past (by decide)
    have large : 2 ^ number.log2 ≤ number := Nat.log2_self_le positive
    have limit : wholeLimit ≤ 2 ^ number.log2 :=
      le_trans (Nat.sub_le _ _) (pow_le_pow_right₀ one_le_two past)
    have quotient : 2 ^ 52 ≤ number / 2 ^ (number.log2 - 52) := by
      rw [Nat.le_div_iff_mul_le (Nat.two_pow_pos _), ← Nat.pow_add,
        show 52 + (number.log2 - 52) = number.log2 by omega]
      exact large
    have rounded := le_divHalfEven number (2 ^ (number.log2 - 52))
    rw [ofRatio_one_of_large negative number past.le, ofRank_isFinite_iff]
    omega

theorem toDouble_eq_ok_iff (number : Int) :
    (∃ value, Numeral.toDouble number = .ok value) ↔ number.natAbs < wholeLimit := by
  rw [← ofRatio_one_isFinite_iff (decide (number < 0)), Numeral.toDouble, ofInt?]
  cases ofRatio (decide (number < 0)) number.natAbs 1 with
  | finite negative rank => exact ⟨fun _ => rfl, fun _ => ⟨_, rfl⟩⟩
  | infinite negative => exact ⟨nofun, nofun⟩
  | nan => exact ⟨nofun, nofun⟩

theorem eq_of_toDouble_eq_error {number : Int} {fault : NumberFault}
    (far : Numeral.toDouble number = .error fault) : fault = .tooLargeForDouble := by
  rw [Numeral.toDouble] at far
  split at far
  · cases far
  · exact (Except.error.inj far).symm

end BlockReader.Double
