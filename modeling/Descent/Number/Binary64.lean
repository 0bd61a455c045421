import Descent.Number.Power

/-!
# Binary floating-point numbers of 64 bits

A finite number is a sign, a significand below `2 ^ 53` and a power of two, in the one canonical
form of its value; the two infinities and one undefined number complete the type.  Every operation
finds its exact rational result first and rounds it once, to the nearest number and a tie to the
even significand, so that each result is a function of the exact value.
-/

namespace Descent

/-- A power of two as a rational number. -/
def twoPower (exponent : Int) : Rat :=
  if 0 ≤ exponent then (power 2 exponent.toNat : Rat)
  else 1 / (power 2 (-exponent).toNat : Rat)

/-- A power of ten as a rational number. -/
def tenPower (exponent : Int) : Rat :=
  if 0 ≤ exponent then (power 10 exponent.toNat : Rat)
  else 1 / (power 10 (-exponent).toNat : Rat)

/-- The greatest power of two that is not above a positive number, as an exponent. -/
def binaryOrder (value : Rat) : Int :=
  let estimate : Int := (Nat.log2 value.num.natAbs : Int) - (Nat.log2 value.den : Int)
  if twoPower estimate ≤ value then estimate else estimate - 1

/-- The nearest integer, a tie going to the even one. -/
def nearestEven (value : Rat) : Int :=
  let lower := value.floor
  let excess := value - (lower : Rat)
  if excess < 1 / 2 then lower
  else if 1 / 2 < excess then lower + 1
  else if lower % 2 = 0 then lower
  else lower + 1

/-- The first significand that takes more than 53 binary digits. -/
def significandEnd : Nat := 9007199254740992

/-- The first significand that takes 53 binary digits. -/
def significandHalf : Nat := 4503599627370496

/-- The one form in which a finite value is stored. -/
def Canonical (significand : Nat) (exponent : Int) : Prop :=
  significand < significandEnd ∧ -1074 ≤ exponent ∧ exponent ≤ 971 ∧
    (significandHalf ≤ significand ∨ exponent = -1074)

instance (significand : Nat) (exponent : Int) : Decidable (Canonical significand exponent) :=
  inferInstanceAs (Decidable (_ ∧ _ ∧ _ ∧ _))

/-- A floating-point number of 64 bits. -/
inductive Binary64 where
  /-- The number `± significand * 2 ^ exponent`. -/
  | finite (negative : Bool) (significand : Nat) (exponent : Int)
      (canonical : Canonical significand exponent)
  /-- An infinity. -/
  | infinite (negative : Bool)
  /-- The undefined number. -/
  | nan
  deriving DecidableEq

namespace Binary64

/-- Zero with a sign. -/
def zero (negative : Bool) : Binary64 :=
  finite negative 0 (-1074) ⟨by decide, by decide, by decide, Or.inr rfl⟩

instance : Inhabited Binary64 := ⟨zero false⟩

/-- The number of given parts when they are canonical, else an infinity. -/
def ofParts (negative : Bool) (significand : Nat) (exponent : Int) : Binary64 :=
  if canonical : Canonical significand exponent then
    finite negative significand exponent canonical
  else infinite negative

/--
The number nearest to a magnitude that is not negative, under a sign.  The significand is read on
the grid that gives it 53 binary digits, or on the finest grid for the smallest numbers; a
significand rounded up to `2 ^ 53` moves to the next grid.
-/
def nearest (negative : Bool) (magnitude : Rat) : Binary64 :=
  if magnitude ≤ 0 then zero negative
  else
    let exponent := max (-1074) (binaryOrder magnitude - 52)
    let significand := (nearestEven (magnitude / twoPower exponent)).toNat
    if significand = significandEnd then ofParts negative significandHalf (exponent + 1)
    else ofParts negative significand exponent

/-- The number nearest to a rational number; zero gets the plus sign. -/
def ofRat (value : Rat) : Binary64 :=
  if value < 0 then nearest true (-value) else nearest false value

/-- The magnitude of a finite number. -/
def magnitude? : Binary64 → Option Rat
  | finite _ significand exponent _ => some ((significand : Rat) * twoPower exponent)
  | infinite _ => none
  | nan => none

/-- The value of a finite number. -/
def toRat? : Binary64 → Option Rat
  | finite negative significand exponent _ =>
      let magnitude := (significand : Rat) * twoPower exponent
      some (if negative then -magnitude else magnitude)
  | infinite _ => none
  | nan => none

/-- The number is finite. -/
def isFinite : Binary64 → Bool
  | finite _ _ _ _ => true
  | infinite _ => false
  | nan => false

/-- The sign is minus; the undefined number has none. -/
def isNegative : Binary64 → Bool
  | finite negative _ _ _ => negative
  | infinite negative => negative
  | nan => false

/-- The number nearest to an integer, unless that is an infinity. -/
def ofInt? (value : Int) : Option Binary64 :=
  match ofRat (value : Rat) with
  | finite negative significand exponent canonical =>
      some (finite negative significand exponent canonical)
  | infinite _ => none
  | nan => none

/-- Numeric equality: both zeros are equal, and the undefined number equals nothing. -/
def same : Binary64 → Binary64 → Bool
  | nan, _ => false
  | _, nan => false
  | infinite left, infinite right => left == right
  | left, right =>
      match left.toRat?, right.toRat? with
      | some leftValue, some rightValue => decide (leftValue = rightValue)
      | _, _ => false

/-- The number with the other sign. -/
def negate : Binary64 → Binary64
  | finite negative significand exponent canonical =>
      finite (!negative) significand exponent canonical
  | infinite negative => infinite (!negative)
  | nan => nan

/-- The rounded sum. -/
def add : Binary64 → Binary64 → Binary64
  | nan, _ => nan
  | _, nan => nan
  | infinite left, infinite right => if left = right then infinite left else nan
  | infinite left, _ => infinite left
  | _, infinite right => infinite right
  | left, right =>
      match left.toRat?, right.toRat? with
      | some leftValue, some rightValue =>
          let sum := leftValue + rightValue
          if sum = 0 then zero (left.isNegative && right.isNegative) else ofRat sum
      | _, _ => nan

/-- The rounded product. -/
def mul : Binary64 → Binary64 → Binary64
  | nan, _ => nan
  | _, nan => nan
  | left, right =>
      let negative := left.isNegative != right.isNegative
      match left.magnitude?, right.magnitude? with
      | some leftMagnitude, some rightMagnitude =>
          nearest negative (leftMagnitude * rightMagnitude)
      | some leftMagnitude, none => if leftMagnitude = 0 then nan else infinite negative
      | none, some rightMagnitude => if rightMagnitude = 0 then nan else infinite negative
      | none, none => infinite negative

/-- The number as an exact integer, if it is one. -/
def toInt? (number : Binary64) : Option Int :=
  match number.toRat? with
  | some value => if value.den = 1 then some value.num else none
  | none => none

end Binary64

end Descent
