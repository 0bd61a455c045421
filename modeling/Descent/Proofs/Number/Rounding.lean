import Mathlib.Algebra.Order.Field.Rat
import Mathlib.Data.Int.Log
import Mathlib.Data.Rat.Floor
import Mathlib.Tactic.FieldSimp
import Mathlib.Tactic.Linarith
import Mathlib.Tactic.NormNum
import Mathlib.Tactic.Positivity
import Descent.Number.Decimal

/-!
# Rounding keeps floating-point numbers

The grid on which a magnitude is rounded is found from its binary logarithm.  A finite number lies
on its own grid, so rounding its value gives it back; hence two finite numbers of one value differ
at most in the sign of a zero.
-/

namespace Descent

/-! ## Powers with integer exponents -/

theorem power_eq_pow (base exponent : Nat) : power base exponent = base ^ exponent := rfl

theorem power_eq_zpow (base : Nat) (exponent : Int) :
    (if 0 ≤ exponent then (power base exponent.toNat : ℚ)
      else 1 / (power base (-exponent).toNat : ℚ)) = (base : ℚ) ^ exponent := by
  split
  · rename_i nonneg
    rw [power_eq_pow, Nat.cast_pow, ← zpow_natCast, Int.toNat_of_nonneg nonneg]
  · have nonneg : 0 ≤ -exponent := by omega
    rw [power_eq_pow, Nat.cast_pow, ← zpow_natCast, Int.toNat_of_nonneg nonneg, zpow_neg, one_div,
      inv_inv]

theorem twoPower_eq_zpow (exponent : Int) : twoPower exponent = (2 : ℚ) ^ exponent := by
  rw [twoPower, power_eq_zpow, Nat.cast_ofNat]

theorem tenPower_eq_zpow (exponent : Int) : tenPower exponent = (10 : ℚ) ^ exponent := by
  rw [tenPower, power_eq_zpow, Nat.cast_ofNat]

/-! ## Binary logarithms -/

theorem log_eq_of_bounds {value : ℚ} {order : Int} (lower : (2 : ℚ) ^ order ≤ value)
    (upper : value < (2 : ℚ) ^ (order + 1)) : Int.log 2 value = order := by
  have positive : 0 < value := lt_of_lt_of_le (zpow_pos (by norm_num) order) lower
  have atLeast : order ≤ Int.log 2 value :=
    (Int.zpow_le_iff_le_log (by decide) positive).mp (by exact_mod_cast lower)
  have below : Int.log 2 value < order + 1 :=
    (Int.lt_zpow_iff_log_lt (by decide) positive).mp (by exact_mod_cast upper)
  omega

theorem natAbs_num_div_den {value : ℚ} (positive : 0 < value) :
    (value.num.natAbs : ℚ) / (value.den : ℚ) = value := by
  rw [Nat.cast_natAbs, abs_of_pos (Rat.num_pos.mpr positive), Rat.num_div_den]

theorem log2_bounds {number : Nat} (nonzero : number ≠ 0) :
    (2 : ℚ) ^ (Nat.log2 number : Int) ≤ number ∧
      (number : ℚ) < (2 : ℚ) ^ ((Nat.log2 number : Int) + 1) := by
  have lower := Nat.log2_self_le nonzero
  have upper := Nat.lt_log2_self (n := number)
  constructor
  · exact_mod_cast lower
  · exact_mod_cast upper

/-- The logarithms of numerator and denominator leave two orders for a fraction. -/
theorem log2_div_bounds {numerator denominator : Nat} (numerator_ne : numerator ≠ 0)
    (denominator_ne : denominator ≠ 0) :
    (2 : ℚ) ^ ((Nat.log2 numerator : Int) - (Nat.log2 denominator : Int) - 1) ≤
        (numerator : ℚ) / denominator ∧
      (numerator : ℚ) / denominator <
        (2 : ℚ) ^ ((Nat.log2 numerator : Int) - (Nat.log2 denominator : Int) + 1) := by
  have denominator_pos : (0 : ℚ) < denominator := by
    exact_mod_cast Nat.pos_of_ne_zero denominator_ne
  obtain ⟨numerator_ge, numerator_lt⟩ := log2_bounds numerator_ne
  obtain ⟨denominator_ge, denominator_lt⟩ := log2_bounds denominator_ne
  constructor
  · rw [le_div_iff₀ denominator_pos]
    calc (2 : ℚ) ^ ((Nat.log2 numerator : Int) - (Nat.log2 denominator : Int) - 1) * denominator
        ≤ 2 ^ ((Nat.log2 numerator : Int) - (Nat.log2 denominator : Int) - 1) *
            2 ^ ((Nat.log2 denominator : Int) + 1) :=
          mul_le_mul_of_nonneg_left denominator_lt.le (zpow_nonneg (by norm_num) _)
      _ = 2 ^ (Nat.log2 numerator : Int) := by
          rw [← zpow_add₀ (by norm_num)]
          congr 1
          omega
      _ ≤ numerator := numerator_ge
  · rw [div_lt_iff₀ denominator_pos]
    calc (numerator : ℚ)
        < 2 ^ ((Nat.log2 numerator : Int) + 1) := numerator_lt
      _ = 2 ^ ((Nat.log2 numerator : Int) - (Nat.log2 denominator : Int) + 1) *
            2 ^ (Nat.log2 denominator : Int) := by
          rw [← zpow_add₀ (by norm_num)]
          congr 1
          omega
      _ ≤ 2 ^ ((Nat.log2 numerator : Int) - (Nat.log2 denominator : Int) + 1) * denominator :=
          mul_le_mul_of_nonneg_left denominator_ge (zpow_nonneg (by norm_num) _)

/-- The binary order is the binary logarithm. -/
theorem binaryOrder_eq_log {value : ℚ} (positive : 0 < value) :
    binaryOrder value = Int.log 2 value := by
  have numerator_ne : value.num.natAbs ≠ 0 := by
    have := Rat.num_pos.mpr positive
    omega
  obtain ⟨lower, upper⟩ := log2_div_bounds numerator_ne value.den_nz
  rw [natAbs_num_div_den positive] at lower upper
  rw [binaryOrder]
  simp only [twoPower_eq_zpow]
  split
  · rename_i reached
    exact (log_eq_of_bounds reached upper).symm
  · rename_i missed
    refine (log_eq_of_bounds lower ?_).symm
    rw [sub_add_cancel]
    exact lt_of_not_ge missed

/-! ## Numbers on their own grid -/

theorem nearestEven_natCast (number : Nat) : nearestEven (number : ℚ) = number := by
  have floor_eq : (number : ℚ).floor = number := by
    rw [Rat.floor_def, Rat.num_natCast, Rat.den_natCast, Nat.cast_one, Int.ediv_one]
  rw [nearestEven]
  simp only [floor_eq]
  norm_num

/-- The binary logarithm of a number with a significand. -/
theorem binaryOrder_mul_twoPower {significand : Nat} (nonzero : significand ≠ 0) (exponent : Int) :
    binaryOrder ((significand : ℚ) * twoPower exponent) =
      (Nat.log2 significand : Int) + exponent := by
  obtain ⟨lower, upper⟩ := log2_bounds nonzero
  have grid_pos : (0 : ℚ) < 2 ^ exponent := zpow_pos (by norm_num) exponent
  have significand_pos : (0 : ℚ) < significand := by
    exact_mod_cast Nat.pos_of_ne_zero nonzero
  rw [twoPower_eq_zpow, binaryOrder_eq_log (mul_pos significand_pos grid_pos)]
  apply log_eq_of_bounds
  · rw [zpow_add₀ (by norm_num)]
    exact mul_le_mul_of_nonneg_right lower grid_pos.le
  · rw [add_right_comm, zpow_add₀ (by norm_num)]
    exact mul_lt_mul_of_pos_right upper grid_pos

/-- The grid of a canonical number is the one on which its magnitude is rounded. -/
theorem exponent_eq_of_canonical {significand : Nat} {exponent : Int}
    (canonical : Canonical significand exponent) (nonzero : significand ≠ 0) :
    max (-1074) ((Nat.log2 significand : Int) + exponent - 52) = exponent := by
  obtain ⟨below, least, -, normal⟩ := canonical
  have order_le : Nat.log2 significand < 53 := (Nat.log2_lt nonzero).mpr below
  rcases normal with reached | lowest
  · have order_ge : 52 ≤ Nat.log2 significand := (Nat.le_log2 nonzero).mpr reached
    omega
  · omega

namespace Binary64

/-- Rounding the magnitude of a finite number under its sign gives the number back. -/
theorem nearest_magnitude (negative : Bool) {significand : Nat} {exponent : Int}
    (canonical : Canonical significand exponent) :
    nearest negative ((significand : ℚ) * twoPower exponent) =
      finite negative significand exponent canonical := by
  by_cases zero_eq : significand = 0
  · subst zero_eq
    have exponent_eq : exponent = -1074 := by
      obtain ⟨-, -, -, normal⟩ := canonical
      rcases normal with reached | lowest
      · exact absurd reached (by decide)
      · exact lowest
    subst exponent_eq
    simp [nearest, zero]
  · have grid_pos : (0 : ℚ) < 2 ^ exponent := zpow_pos (by norm_num) exponent
    have significand_pos : (0 : ℚ) < significand := by
      exact_mod_cast Nat.pos_of_ne_zero zero_eq
    have positive : ¬ (significand : ℚ) * twoPower exponent ≤ 0 := by
      rw [twoPower_eq_zpow, not_le]
      exact mul_pos significand_pos grid_pos
    have onGrid : (significand : ℚ) * twoPower exponent / twoPower exponent = significand := by
      rw [twoPower_eq_zpow, mul_div_cancel_right₀ _ grid_pos.ne']
    have inside : significand ≠ significandEnd := Nat.ne_of_lt canonical.1
    rw [nearest, if_neg positive]
    simp only [binaryOrder_mul_twoPower zero_eq, exponent_eq_of_canonical canonical zero_eq, onGrid,
      nearestEven_natCast, Int.toNat_natCast, if_neg inside]
    rw [ofParts, dif_pos canonical]

/-! ## Numeric equality -/

/-- The number, with the plus sign if it is zero. -/
def unsignedZero : Binary64 → Binary64
  | finite negative significand exponent canonical =>
      finite (negative && decide (significand ≠ 0)) significand exponent canonical
  | infinite negative => infinite negative
  | nan => nan

@[simp]
theorem isFinite_unsignedZero (number : Binary64) :
    number.unsignedZero.isFinite = number.isFinite := by
  cases number <;> rfl

theorem toRat?_unsignedZero (number : Binary64) : number.unsignedZero.toRat? = number.toRat? := by
  cases number with
  | finite negative significand exponent canonical =>
      by_cases zero_eq : significand = 0
      · simp [unsignedZero, toRat?, zero_eq]
      · simp [unsignedZero, toRat?, zero_eq]
  | infinite negative => rfl
  | nan => rfl

/-- A number that is not zero is left as it is. -/
theorem unsignedZero_of_ne_zero {negative : Bool} {significand : Nat} {exponent : Int}
    (canonical : Canonical significand exponent) (nonzero : significand ≠ 0) :
    (finite negative significand exponent canonical).unsignedZero =
      finite negative significand exponent canonical := by
  simp [unsignedZero, nonzero]

theorem magnitude_nonneg (significand : Nat) (exponent : Int) :
    0 ≤ (significand : ℚ) * twoPower exponent := by
  rw [twoPower_eq_zpow]
  exact mul_nonneg (Nat.cast_nonneg _) (zpow_nonneg (by norm_num) _)

theorem significand_eq_zero {significand : Nat} {exponent : Int}
    (magnitude_eq : (significand : ℚ) * twoPower exponent = 0) : significand = 0 := by
  rw [twoPower_eq_zpow] at magnitude_eq
  have grid_ne : (2 : ℚ) ^ exponent ≠ 0 := zpow_ne_zero _ (by norm_num)
  exact_mod_cast (mul_eq_zero.mp magnitude_eq).resolve_right grid_ne

theorem same_iff_toRat? {left right : Binary64} (left_finite : left.isFinite = true)
    (right_finite : right.isFinite = true) :
    left.same right = true ↔ left.toRat? = right.toRat? := by
  cases left with
  | infinite _ | nan => contradiction
  | finite negative significand exponent canonical =>
      cases right with
      | infinite _ | nan => contradiction
      | finite otherNegative otherSignificand otherExponent otherCanonical => simp [same, toRat?]

/-- The value of a finite number tells the number but for the sign of a zero. -/
theorem unsignedZero_eq_of_toRat? {left right : Binary64} (left_finite : left.isFinite = true)
    (right_finite : right.isFinite = true) (values : left.toRat? = right.toRat?) :
    left.unsignedZero = right.unsignedZero := by
  cases left with
  | infinite _ | nan => contradiction
  | finite negative significand exponent canonical =>
      cases right with
      | infinite _ | nan => contradiction
      | finite otherNegative otherSignificand otherExponent otherCanonical =>
          have nonneg := magnitude_nonneg significand exponent
          have otherNonneg := magnitude_nonneg otherSignificand otherExponent
          simp only [toRat?, Option.some.injEq] at values
          have magnitudes : (significand : ℚ) * twoPower exponent =
              otherSignificand * twoPower otherExponent := by
            split at values <;> split at values <;> linarith
          have numbers := nearest_magnitude false canonical
          rw [magnitudes, nearest_magnitude false otherCanonical] at numbers
          obtain ⟨-, rfl, rfl⟩ := finite.inj numbers
          by_cases zero_eq : otherSignificand = 0
          · simp [unsignedZero, zero_eq]
          · have magnitude_ne : (otherSignificand : ℚ) * twoPower otherExponent ≠ 0 :=
              mt significand_eq_zero zero_eq
            have signs : negative = otherNegative := by
              by_contra differ
              apply magnitude_ne
              cases negative <;> cases otherNegative <;> simp at differ values <;> linarith
            rw [signs]

/-- Finite numbers are equal as numbers if they are the same but for the sign of a zero. -/
theorem same_iff_unsignedZero {left right : Binary64} (left_finite : left.isFinite = true)
    (right_finite : right.isFinite = true) :
    left.same right = true ↔ left.unsignedZero = right.unsignedZero := by
  rw [same_iff_toRat? left_finite right_finite]
  constructor
  · exact unsignedZero_eq_of_toRat? left_finite right_finite
  · intro equal
    rw [← toRat?_unsignedZero, equal, toRat?_unsignedZero]

theorem toRat?_of_toInt? {number : Binary64} {whole : Int} (isWhole : number.toInt? = some whole) :
    number.toRat? = some (whole : ℚ) := by
  rw [toInt?] at isWhole
  split at isWhole
  · rename_i value value_eq
    split at isWhole
    · rename_i denominator
      obtain rfl := Option.some.inj isWhole
      rw [value_eq, Rat.coe_int_num_of_den_eq_one denominator]
    · contradiction
  · contradiction

end Binary64

end Descent
