set_option autoImplicit false

namespace BlockReader.Radix

def value (base : Nat) (digits : List Nat) : Nat :=
  digits.foldl (fun total digit => total * base + digit) 0

/-- The digits of a number in front of those already written. As many steps as the number says are
always enough. -/
def digitsOnto (base : Nat) : (fuel number : Nat) → (written : List Nat) → List Nat
  | 0, _, written => written
  | fuel + 1, number, written =>
    if 2 ≤ base ∧ 0 < number then
      digitsOnto base fuel (number / base) (number % base :: written)
    else
      written

/-- The digits of a number without leading zeros; zero has none. -/
def digits (base number : Nat) : List Nat :=
  digitsOnto base number number []

@[simp] theorem digits_zero (base : Nat) : digits base 0 = [] := rfl

theorem digitsOnto_zero (base fuel : Nat) (written : List Nat) :
    digitsOnto base fuel 0 written = written := by
  cases fuel with
  | zero => rfl
  | succ fuel => rw [digitsOnto, if_neg (by omega)]

theorem digitsOnto_pos (base fuel number : Nat) (written : List Nat) (proper : 2 ≤ base)
    (positive : 0 < number) : digitsOnto base (fuel + 1) number written =
      digitsOnto base fuel (number / base) (number % base :: written) := by
  rw [digitsOnto, if_pos ⟨proper, positive⟩]

theorem div_le_of_le_succ {base fuel number : Nat} (proper : 2 ≤ base)
    (enough : number ≤ fuel + 1) : number / base ≤ fuel := by
  rcases Nat.eq_zero_or_pos number with rfl | positive
  · rw [Nat.zero_div]
    exact Nat.zero_le fuel
  · exact Nat.le_of_lt_succ (Nat.lt_of_lt_of_le (Nat.div_lt_self positive proper) enough)

private theorem foldl_digitsOnto (base : Nat) (proper : 2 ≤ base) (fuel number : Nat)
    (written : List Nat) (enough : number ≤ fuel) :
    (digitsOnto base fuel number written).foldl (fun total digit => total * base + digit) 0 =
      written.foldl (fun total digit => total * base + digit) number := by
  induction fuel generalizing number written with
  | zero => rw [Nat.le_zero.mp enough, digitsOnto_zero]
  | succ fuel ih =>
    rcases Nat.eq_zero_or_pos number with rfl | positive
    · rw [digitsOnto_zero]
    · rw [digitsOnto_pos base fuel number written proper positive,
        ih _ _ (div_le_of_le_succ proper enough), List.foldl_cons]
      congr 1
      rw [Nat.mul_comm]
      exact Nat.div_add_mod number base

theorem value_digits (base : Nat) (proper : 2 ≤ base) (number : Nat) :
    value base (digits base number) = number := by
  exact foldl_digitsOnto base proper number number [] (Nat.le_refl number)

end BlockReader.Radix
