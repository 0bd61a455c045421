/-!
# Powers of natural numbers

Powers under a name of their own, so that large ones are not evaluated where they are only spoken of.
-/

namespace Descent

/-- The product of `exponent` copies of a base. -/
def power (base exponent : Nat) : Nat := Nat.pow base exponent

@[simp]
theorem power_zero (base : Nat) : power base 0 = 1 := rfl

theorem power_succ (base exponent : Nat) :
    power base (exponent + 1) = power base exponent * base := rfl

theorem power_pos {base : Nat} (positive : 0 < base) (exponent : Nat) :
    0 < power base exponent := by
  induction exponent with
  | zero => exact Nat.one_pos
  | succ exponent induction => exact Nat.mul_pos induction positive

end Descent
