import Descent.Proofs.Number.Shortest

/-!
# Whole numbers are kept whole

A natural number is rounded to a whole number: where the grid is finer than the units, it lies on the
grid.  The shortest decimal of a number that is not whole has therefore digits behind the point.
-/

namespace Descent
namespace Binary64

theorem magnitude?_ofParts {negative : Bool} {significand : Nat} {exponent : Int} {magnitude : ℚ}
    (found : (ofParts negative significand exponent).magnitude? = some magnitude) :
    magnitude = significand * twoPower exponent := by
  rw [ofParts] at found
  split at found
  · exact (Option.some.inj found).symm
  · contradiction

/-- A significand on a grid of whole numbers gives a whole number. -/
theorem exists_natCast_of_nonneg (significand : Nat) {exponent : Int} (nonneg : 0 ≤ exponent) :
    ∃ whole : Nat, (significand : ℚ) * twoPower exponent = whole := by
  refine ⟨significand * power 2 exponent.toNat, ?_⟩
  rw [twoPower, if_pos nonneg, Nat.cast_mul]

/-- On a grid that is finer than the units a natural number is its own rounding. -/
theorem nearestEven_div_of_neg (count : Nat) {exponent : Int} (negative : exponent < 0) :
    (nearestEven ((count : ℚ) / twoPower exponent)).toNat = count * power 2 (-exponent).toNat := by
  have scaled : (count : ℚ) / twoPower exponent =
      ((count * power 2 (-exponent).toNat : Nat) : ℚ) := by
    rw [twoPower, if_neg (Int.not_le.mpr negative), div_div_eq_mul_div, div_one, Nat.cast_mul]
  rw [scaled, nearestEven_natCast, Int.toNat_natCast]

theorem mul_power_mul_twoPower (count : Nat) {exponent : Int} (negative : exponent < 0) :
    ((count * power 2 (-exponent).toNat : Nat) : ℚ) * twoPower exponent = count := by
  have power_ne : (power 2 (-exponent).toNat : ℚ) ≠ 0 := by
    exact_mod_cast (power_pos Nat.two_pos _).ne'
  rw [twoPower, if_neg (Int.not_le.mpr negative), Nat.cast_mul, mul_assoc,
    mul_one_div_cancel power_ne, mul_one]

theorem significandHalf_mul_twoPower (exponent : Int) :
    (significandHalf : ℚ) * twoPower (exponent + 1) = significandEnd * twoPower exponent := by
  rw [twoPower_eq_zpow, twoPower_eq_zpow, zpow_add_one₀ two_ne_zero, significandHalf, significandEnd]
  push_cast
  ring

/-- A natural number is rounded to a whole number, unless that is infinite. -/
theorem exists_natCast_of_nearest {negative : Bool} {count : Nat} {magnitude : ℚ}
    (found : (nearest negative (count : ℚ)).magnitude? = some magnitude) :
    ∃ whole : Nat, magnitude = whole := by
  rw [nearest] at found
  split at found
  · obtain rfl := Option.some.inj found
    exact ⟨0, by simp⟩
  · dsimp only at found
    generalize max (-1074) (binaryOrder (count : ℚ) - 52) = exponent at found
    rcases Int.lt_or_le exponent 0 with fine | coarse
    · rw [nearestEven_div_of_neg count fine] at found
      refine ⟨count, ?_⟩
      split at found
      · rename_i reached
        rw [magnitude?_ofParts found, significandHalf_mul_twoPower, ← reached,
          mul_power_mul_twoPower count fine]
      · rw [magnitude?_ofParts found, mul_power_mul_twoPower count fine]
    · split at found
      · rw [magnitude?_ofParts found]
        exact exists_natCast_of_nonneg _ (by omega)
      · rw [magnitude?_ofParts found]
        exact exists_natCast_of_nonneg _ coarse

theorem toInt?_ne_none {number : Binary64} {whole : Nat}
    (magnitude_eq : number.magnitude? = some (whole : ℚ)) : number.toInt? ≠ none := by
  cases number with
  | infinite _ | nan => contradiction
  | finite negative significand exponent canonical =>
      have product_eq : (significand : ℚ) * twoPower exponent = whole :=
        Option.some.inj magnitude_eq
      cases negative <;> simp [toInt?, toRat?, product_eq]

/-- The shortest decimal of a number that is not whole has digits behind the point. -/
theorem exponent_neg_of_shortest? {number : Binary64} {decimal : Decimal}
    (shortest : number.shortest? = some decimal) (notWhole : number.toInt? = none) :
    decimal.exponent < 0 := by
  by_contra nonneg
  rw [Int.not_lt] at nonneg
  have isFinite : number.isFinite = true := by
    rw [← isSome_shortest?, shortest, Option.isSome_some]
  have rounded := toBinary64_of_shortest? shortest
  have units_eq : decimal.magnitude = ((decimal.units * power 10 decimal.exponent.toNat : Nat) : ℚ) := by
    rw [Decimal.magnitude, tenPower, if_pos nonneg, Nat.cast_mul]
  rw [Decimal.toBinary64, units_eq] at rounded
  have finite_magnitude : ∃ magnitude, number.magnitude? = some magnitude := by
    cases number with
    | infinite _ | nan => contradiction
    | finite negative significand exponent canonical => exact ⟨_, rfl⟩
  obtain ⟨magnitude, magnitude_eq⟩ := finite_magnitude
  obtain ⟨whole, rfl⟩ := exists_natCast_of_nearest (rounded ▸ magnitude_eq)
  exact toInt?_ne_none magnitude_eq notWhole

end Binary64
end Descent
