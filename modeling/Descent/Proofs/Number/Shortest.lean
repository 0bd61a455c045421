import Descent.Number.Shortest
import Descent.Proofs.Number.Rounding

/-!
# The decimal of a number reads back

The digits of a natural number denote it.  The decimal that is written for a finite number, whether
found by the search or exact, rounds to that number, and moving zeros into its exponent changes
nothing.
-/

namespace Descent

/-! ## Digits -/

theorem all_digitsOf (number : Nat) : (digitsOf number).all isDigit = true := by
  rw [List.all_eq_true]
  intro character mem
  exact Nat.isDigit_of_mem_toDigits (by decide) (by decide) mem

theorem all_zeros (count : Nat) : (List.replicate count '0').all isDigit = true := by
  rw [List.all_eq_true]
  intro character mem
  rw [List.eq_of_mem_replicate mem]
  rfl

theorem digitsOf_ne_nil (number : Nat) : digitsOf number ≠ [] := Nat.toDigits_ne_nil

theorem digitsFrom_eq_ofDigitChars (earlier : Nat) (digits : List Char) :
    digitsFrom earlier digits = Nat.ofDigitChars 10 digits earlier := rfl

theorem digitsValue_digitsOf (number : Nat) : digitsValue (digitsOf number) = number :=
  Nat.ofDigitChars_toDigits (by decide) (by decide)

theorem digitsValue_zeros (count : Nat) : digitsValue (List.replicate count '0') = 0 := by
  rw [digitsValue, digitsFrom_eq_ofDigitChars, Nat.ofDigitChars_replicate_zero, Nat.mul_zero]

theorem digitsValue_append_zeros (digits : List Char) (count : Nat) :
    digitsValue (digits ++ List.replicate count '0') = digitsValue digits * 10 ^ count := by
  rw [digitsValue_append, digitsValue_zeros, List.length_replicate, power_eq_pow, Nat.add_zero]

theorem digitsValue_zeros_append (count : Nat) (digits : List Char) :
    digitsValue (List.replicate count '0' ++ digits) = digitsValue digits := by
  rw [digitsValue_append, digitsValue_zeros, Nat.zero_mul, Nat.zero_add]

/-! ## Decimals -/

namespace Shortest

theorem toBinary64_of_onGrid {number : Binary64} {magnitude : Rat} {exponent : Int} {units : Nat}
    (found : onGrid number magnitude exponent = some units) :
    Decimal.toBinary64 ⟨number.isNegative, units, exponent⟩ = number := by
  rw [onGrid] at found
  split at found
  split at found
  · rename_i reads
    obtain rfl := Option.some.inj found
    exact of_decide_eq_true reads
  · split at found
    · rename_i reads
      obtain rfl := Option.some.inj found
      exact of_decide_eq_true reads
    · contradiction

/-- A decimal that the search finds rounds to the number. -/
theorem toBinary64_of_search {number : Binary64} {magnitude : Rat} {count : Nat} {exponent : Int}
    {decimal : Decimal} (found : search number magnitude count exponent = some decimal) :
    decimal.toBinary64 = number := by
  induction count generalizing exponent with
  | zero => contradiction
  | succ count induction =>
      rw [search] at found
      split at found
      · rename_i units onGrid_eq
        obtain rfl := Option.some.inj found
        exact toBinary64_of_onGrid onGrid_eq
      · exact induction found

theorem magnitude_exact (negative : Bool) (significand : Nat) (exponent : Int) :
    (exact negative significand exponent).magnitude = (significand : ℚ) * twoPower exponent := by
  unfold exact
  split
  · rename_i nonneg
    rw [Decimal.magnitude, tenPower_eq_zpow, twoPower_eq_zpow, power_eq_pow]
    push_cast
    rw [mul_one, ← zpow_natCast, Int.toNat_of_nonneg nonneg]
  · have nonneg : 0 ≤ -exponent := by omega
    have five_ne : (5 : ℚ) ^ exponent ≠ 0 := zpow_ne_zero _ (by norm_num)
    have ten : (10 : ℚ) ^ exponent = 2 ^ exponent * 5 ^ exponent := by
      rw [← mul_zpow]
      norm_num
    rw [Decimal.magnitude, tenPower_eq_zpow, twoPower_eq_zpow, power_eq_pow, ten]
    push_cast
    rw [← zpow_natCast, Int.toNat_of_nonneg nonneg, zpow_neg]
    field_simp

/-- Zeros are moved between units and exponent without a change of the number. -/
theorem toBinary64_strip (count : Nat) (decimal : Decimal) :
    (strip count decimal).toBinary64 = decimal.toBinary64 := by
  induction count generalizing decimal with
  | zero => rfl
  | succ count induction =>
      rw [strip]
      split
      · rename_i trailing
        have magnitudes : Decimal.magnitude
            ⟨decimal.negative, decimal.units / 10, decimal.exponent + 1⟩ = decimal.magnitude := by
          have units_eq : decimal.units / 10 * 10 = decimal.units := by omega
          simp only [Decimal.magnitude, tenPower_eq_zpow]
          rw [zpow_add_one₀ (by norm_num), mul_comm ((10 : ℚ) ^ _), ← mul_assoc]
          congr 1
          exact_mod_cast units_eq
        rw [induction, Decimal.toBinary64, Decimal.toBinary64, magnitudes]
      · rfl

end Shortest

namespace Binary64

/-- The shortest decimal of a number rounds to the number. -/
theorem toBinary64_of_shortest? {number : Binary64} {decimal : Decimal}
    (shortest : number.shortest? = some decimal) : decimal.toBinary64 = number := by
  cases number with
  | infinite _ | nan => contradiction
  | finite negative significand exponent canonical =>
      rw [shortest?] at shortest
      split at shortest
      · rename_i zero_eq
        obtain rfl := Option.some.inj shortest
        have rounded := nearest_magnitude negative canonical
        rw [← rounded, Decimal.toBinary64, Decimal.magnitude, zero_eq]
        simp
      · obtain rfl := Option.some.inj shortest
        rw [Shortest.toBinary64_strip]
        cases found : Shortest.search (finite negative significand exponent canonical)
            ((significand : ℚ) * twoPower exponent) 17
            (decimalOrder ((significand : ℚ) * twoPower exponent)) with
        | some decimal => exact Shortest.toBinary64_of_search found
        | none =>
            have sign : (Shortest.exact negative significand exponent).negative = negative := by
              unfold Shortest.exact
              split <;> rfl
            rw [Option.getD_none, Decimal.toBinary64, Shortest.magnitude_exact, sign,
              nearest_magnitude negative canonical]

end Binary64

end Descent
