import BlockReader.Numeral.Radix
import Mathlib.Data.Nat.Digits.Lemmas
set_option autoImplicit false

namespace BlockReader.Radix

theorem value_eq_ofDigits (base : Nat) (digits : List Nat) :
    value base digits = Nat.ofDigits base digits.reverse := by
  rw [Nat.ofDigits_eq_foldr, List.foldr_reverse, value]
  congr 1
  funext total digit
  simp only [Nat.cast_id, Nat.mul_comm base, Nat.add_comm]

private theorem digitsOnto_eq_append (base : Nat) (proper : 2 ≤ base) (fuel number : Nat)
    (written : List Nat) (enough : number ≤ fuel) :
    digitsOnto base fuel number written = (Nat.digits base number).reverse ++ written := by
  induction fuel generalizing number written with
  | zero => rw [Nat.le_zero.mp enough, digitsOnto_zero, Nat.digits_zero, List.reverse_nil,
      List.nil_append]
  | succ fuel ih =>
    rcases Nat.eq_zero_or_pos number with rfl | positive
    · rw [digitsOnto_zero, Nat.digits_zero, List.reverse_nil, List.nil_append]
    · rw [digitsOnto_pos base fuel number written proper positive,
        ih _ _ (div_le_of_le_succ proper enough), Nat.digits_of_two_le_of_pos proper positive,
        List.reverse_cons, List.append_assoc, List.singleton_append]

theorem digits_eq_reverse (base : Nat) (proper : 2 ≤ base) (number : Nat) :
    digits base number = (Nat.digits base number).reverse := by
  rw [digits, digitsOnto_eq_append base proper number number [] (Nat.le_refl number),
    List.append_nil]

theorem digits_lt (base : Nat) (proper : 2 ≤ base) (number digit : Nat)
    (member : digit ∈ digits base number) : digit < base := by
  rw [digits_eq_reverse base proper, List.mem_reverse] at member
  exact Nat.digits_lt_base proper member

theorem head?_digits_ne_zero (base : Nat) (proper : 2 ≤ base) (number : Nat) :
    (digits base number).head? ≠ some 0 := by
  intro zero
  rw [digits_eq_reverse base proper, List.head?_reverse] at zero
  have written : Nat.digits base number ≠ [] := by
    intro empty
    rw [empty, List.getLast?_nil] at zero
    cases zero
  have last := Nat.getLast_digit_ne_zero base (Nat.digits_ne_nil_iff_ne_zero.mp written)
  rw [List.getLast?_eq_some_getLast written, Option.some.injEq] at zero
  exact last zero

/-- Digits without a leading zero are the digits of the number that they write. -/
theorem digits_value (base : Nat) (proper : 2 ≤ base) (written : List Nat)
    (below : ∀ digit ∈ written, digit < base) (noZero : written.head? ≠ some 0) :
    digits base (value base written) = written := by
  rw [digits_eq_reverse base proper, value_eq_ofDigits, Nat.digits_ofDigits base proper,
    List.reverse_reverse]
  · intro digit member
    exact below digit (List.mem_reverse.mp member)
  · intro nonempty zero
    apply noZero
    rw [← List.getLast?_reverse, List.getLast?_eq_some_getLast nonempty, zero]

theorem value_lt (base : Nat) (proper : 2 ≤ base) (written : List Nat)
    (below : ∀ digit ∈ written, digit < base) : value base written < base ^ written.length := by
  rw [value_eq_ofDigits, ← List.length_reverse]
  exact Nat.ofDigits_lt_base_pow_length proper
    (fun digit member => below digit (List.mem_reverse.mp member))

theorem length_digits_le (base : Nat) (proper : 2 ≤ base) (number places : Nat)
    (small : number < base ^ places) : (digits base number).length ≤ places := by
  rw [digits_eq_reverse base proper, List.length_reverse, Nat.digits_length_le_iff proper]
  exact small

theorem value_replicate_append (base count : Nat) (written : List Nat) :
    value base (List.replicate count 0 ++ written) = value base written := by
  rw [value_eq_ofDigits, value_eq_ofDigits, List.reverse_append, List.reverse_replicate,
    Nat.ofDigits_append_replicate_zero]

/-- How many zeros a list of digits starts with. -/
def leadingZeros (written : List Nat) : Nat :=
  (written.takeWhile (· == 0)).length

/-- A list of digits in another base, with as many leading zeros as before. -/
def rebase (fromBase toBase : Nat) (written : List Nat) : List Nat :=
  List.replicate (leadingZeros written) 0 ++ digits toBase (value fromBase written)

theorem leadingZeros_le (written : List Nat) : leadingZeros written ≤ written.length :=
  (List.takeWhile_sublist _).length_le

/-- Digits are their leading zeros followed by digits that start with none. -/
theorem replicate_append_dropWhile (written : List Nat) :
    List.replicate (leadingZeros written) 0 ++ written.dropWhile (· == 0) = written := by
  have zeros : written.takeWhile (· == 0) = List.replicate (leadingZeros written) 0 := by
    apply List.eq_replicate_of_mem
    intro digit member
    exact eq_of_beq (List.all_eq_true.mp List.all_takeWhile digit member)
  rw [← zeros, List.takeWhile_append_dropWhile]

theorem head?_dropWhile_ne_zero (written : List Nat) :
    (written.dropWhile (· == 0)).head? ≠ some 0 := by
  intro zero
  have failed := List.head?_dropWhile_not (· == 0) written
  rw [zero] at failed
  simp at failed

theorem leadingZeros_replicate_append (count : Nat) (written : List Nat)
    (noZero : written.head? ≠ some 0) :
    leadingZeros (List.replicate count 0 ++ written) = count := by
  have none : written.takeWhile (· == 0) = [] := by
    cases written with
    | nil => rfl
    | cons digit rest =>
      have nonzero : digit ≠ 0 := fun zero => noZero (by rw [List.head?_cons, zero])
      rw [List.takeWhile_cons_of_neg (by simpa using nonzero)]
  rw [leadingZeros, List.takeWhile_append_of_pos (by simp), none, List.append_nil,
    List.length_replicate]

theorem rebase_lt (fromBase toBase : Nat) (proper : 2 ≤ toBase) (written : List Nat)
    (digit : Nat) (member : digit ∈ rebase fromBase toBase written) : digit < toBase := by
  rcases List.mem_append.mp member with zero | ofNumber
  · rw [List.eq_of_mem_replicate zero]
    omega
  · exact digits_lt toBase proper _ digit ofNumber

/-- Writing digits in another base and then in the old one gives them back. -/
theorem rebase_rebase (fromBase toBase : Nat) (properFrom : 2 ≤ fromBase) (properTo : 2 ≤ toBase)
    (written : List Nat) (below : ∀ digit ∈ written, digit < fromBase) :
    rebase toBase fromBase (rebase fromBase toBase written) = written := by
  have zeros : leadingZeros (rebase fromBase toBase written) = leadingZeros written :=
    leadingZeros_replicate_append _ _ (head?_digits_ne_zero toBase properTo _)
  have number : value toBase (rebase fromBase toBase written) =
      value fromBase (written.dropWhile (· == 0)) := by
    rw [rebase, value_replicate_append, value_digits toBase properTo]
    conv_lhs => rw [← replicate_append_dropWhile written, value_replicate_append]
  have tail : digits fromBase (value fromBase (written.dropWhile (· == 0))) =
      written.dropWhile (· == 0) := by
    apply digits_value fromBase properFrom
    · intro digit member
      exact below digit ((List.dropWhile_sublist _).subset member)
    · exact head?_dropWhile_ne_zero written
  rw [rebase, zeros, number, tail, replicate_append_dropWhile]

/-- A power of a larger base is at most a power of a smaller one with more places; then so it is
for every lower power. -/
theorem pow_le_pow_add (large small length extra fewer : Nat) (positive : 0 < small)
    (ordered : small ≤ large) (reached : large ^ length ≤ small ^ (length + extra))
    (lower : fewer ≤ length) : large ^ fewer ≤ small ^ (fewer + extra) := by
  have split : length = fewer + (length - fewer) := by omega
  apply Nat.le_of_mul_le_mul_right _ (Nat.pow_pos (n := length - fewer) positive)
  calc
    large ^ fewer * small ^ (length - fewer) ≤ large ^ fewer * large ^ (length - fewer) :=
      Nat.mul_le_mul_left _ (Nat.pow_le_pow_left ordered _)
    _ = large ^ length := by rw [← Nat.pow_add, ← split]
    _ ≤ small ^ (length + extra) := reached
    _ = small ^ (fewer + extra) * small ^ (length - fewer) := by
      rw [← Nat.pow_add]
      congr 1
      omega

/-- Where all digits of a length fit into some places more of a smaller base, they still do when
some of them are leading zeros. -/
theorem length_rebase_le (fromBase toBase length extra : Nat) (proper : 2 ≤ toBase)
    (ordered : toBase ≤ fromBase) (reached : fromBase ^ length ≤ toBase ^ (length + extra))
    (written : List Nat) (sized : written.length = length)
    (below : ∀ digit ∈ written, digit < fromBase) :
    (rebase fromBase toBase written).length ≤ length + extra := by
  have zeros := leadingZeros_le written
  have tailLength : (written.dropWhile (· == 0)).length = length - leadingZeros written := by
    have total := congrArg List.length (replicate_append_dropWhile written)
    rw [List.length_append, List.length_replicate] at total
    omega
  have small : value fromBase written < toBase ^ (length - leadingZeros written + extra) := by
    rw [← replicate_append_dropWhile written, value_replicate_append]
    apply Nat.lt_of_lt_of_le (value_lt fromBase (by omega) _ ?_)
    · rw [tailLength, replicate_append_dropWhile]
      exact pow_le_pow_add fromBase toBase length extra _ (by omega) ordered reached (by omega)
    · intro digit member
      exact below digit ((List.dropWhile_sublist _).subset member)
  have fits := length_digits_le toBase proper _ _ small
  rw [rebase, List.length_append, List.length_replicate]
  omega

end BlockReader.Radix
