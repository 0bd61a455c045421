import Descent.Number.Decimal

/-!
# Shortest decimals

The decimal written for a floating-point number has the fewest digits that read back to it; of two
such decimals the nearer one is written, and of two equally near ones the even one.  For each count
of digits the only candidates are the two neighbours of the number on the grid of that many digits.
-/

namespace Descent

/-- The greatest power of ten that is not above a positive number, as an exponent. -/
def decimalOrder (value : Rat) : Int :=
  let estimate : Int :=
    ((digitsOf value.num.natAbs).length : Int) - ((digitsOf value.den).length : Int)
  if tenPower estimate ≤ value then estimate else estimate - 1

namespace Shortest

/-- Does the magnitude `units * 10 ^ exponent` read back as the given one? -/
def readsBack (number : Binary64) (units : Nat) (exponent : Int) : Bool :=
  decide (Decimal.toBinary64 ⟨number.isNegative, units, exponent⟩ = number)

/-- The unit counts on the grid `10 ^ exponent` next to a magnitude that read back, best first. -/
def onGrid (number : Binary64) (magnitude : Rat) (exponent : Int) : Option Nat :=
  let scaled := magnitude / tenPower exponent
  let lower := scaled.floor.toNat
  let excess := scaled - (lower : Rat)
  let lowerFirst := decide (excess < 1 / 2) || (decide (excess = 1 / 2) && lower % 2 == 0)
  let (best, second) := if lowerFirst then (lower, lower + 1) else (lower + 1, lower)
  if readsBack number best exponent then some best
  else if readsBack number second exponent then some second
  else none

/-- Search the grids from the exponent of a first one downwards, `count` of them. -/
def search (number : Binary64) (magnitude : Rat) : Nat → Int → Option Decimal
  | 0, _ => none
  | count + 1, exponent =>
      match onGrid number magnitude exponent with
      | some units => some ⟨number.isNegative, units, exponent⟩
      | none => search number magnitude count (exponent - 1)

/-- The exact decimal of a significand under a power of two. -/
def exact (negative : Bool) (significand : Nat) (exponent : Int) : Decimal :=
  if 0 ≤ exponent then ⟨negative, significand * power 2 exponent.toNat, 0⟩
  else ⟨negative, significand * power 5 (-exponent).toNat, exponent⟩

/-- Move zeros at the end of the units into the exponent, at most `count` of them. -/
def strip : Nat → Decimal → Decimal
  | 0, decimal => decimal
  | count + 1, decimal =>
      if decimal.units ≠ 0 ∧ decimal.units % 10 = 0 then
        strip count ⟨decimal.negative, decimal.units / 10, decimal.exponent + 1⟩
      else decimal

end Shortest

namespace Binary64

/-- The shortest decimal of a finite number; it has no zero at its end unless it is zero. -/
def shortest? : Binary64 → Option Decimal
  | finite negative significand exponent canonical =>
      if significand = 0 then some ⟨negative, 0, 0⟩
      else
        let number := finite negative significand exponent canonical
        let magnitude := (significand : Rat) * twoPower exponent
        let decimal :=
          (Shortest.search number magnitude 17 (decimalOrder magnitude)).getD
            (Shortest.exact negative significand exponent)
        some (Shortest.strip (digitsOf decimal.units).length decimal)
  | infinite _ => none
  | nan => none

/-- The finite numbers are those that have a shortest decimal. -/
theorem isSome_shortest? (number : Binary64) : number.shortest?.isSome = number.isFinite := by
  cases number with
  | infinite _ | nan => rfl
  | finite negative significand exponent canonical =>
      rw [shortest?]
      split <;> rfl

end Binary64

end Descent
