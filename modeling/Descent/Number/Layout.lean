import Descent.Number.Shortest

/-!
# Texts of numbers

Two ways to write a floating-point number.  The plain text keeps a point in every finite number and
turns to scientific notation for the largest and the smallest ones.  The literal text never has an
exponent: a whole number is written with all its digits and no point.
-/

namespace Descent

/-- The minus sign of a negative number. -/
def signText (negative : Bool) : List Char := if negative then ['-'] else []

namespace Decimal

/-- The power of ten of the first digit. -/
def leadingExponent (decimal : Decimal) : Int :=
  decimal.exponent + ((digitsOf decimal.units).length : Int) - 1

/-- Positional notation of the magnitude; a whole number has no point. -/
def positional (decimal : Decimal) : List Char :=
  let digits := digitsOf decimal.units
  if 0 ≤ decimal.exponent then digits ++ List.replicate decimal.exponent.toNat '0'
  else
    let places := (-decimal.exponent).toNat
    if places < digits.length then
      digits.take (digits.length - places) ++ '.' :: digits.drop (digits.length - places)
    else '0' :: '.' :: (List.replicate (places - digits.length) '0' ++ digits)

/-- The exponent of scientific notation: a sign and at least two digits. -/
def exponentText (exponent : Int) : List Char :=
  let digits := digitsOf exponent.natAbs
  (if exponent < 0 then '-' else '+') :: (List.replicate (2 - digits.length) '0' ++ digits)

/-- Scientific notation of the magnitude, with one digit before the point. -/
def scientific (decimal : Decimal) : List Char :=
  match digitsOf decimal.units with
  | [] => []
  | first :: [] => first :: 'e' :: exponentText decimal.leadingExponent
  | first :: others => first :: '.' :: (others ++ 'e' :: exponentText decimal.leadingExponent)

/-- Positional notation is used for a leading exponent from -4 to 15. -/
def isPositional (decimal : Decimal) : Bool :=
  decide (-4 ≤ decimal.leadingExponent) && decide (decimal.leadingExponent < 16)

/-- The plain text of a decimal. -/
def plainText (decimal : Decimal) : List Char :=
  signText decimal.negative ++
    if decimal.isPositional then
      decimal.positional ++ if 0 ≤ decimal.exponent then ['.', '0'] else []
    else decimal.scientific

end Decimal

namespace Binary64

/-- The plain text of a number. -/
def plainText (number : Binary64) : List Char :=
  match number with
  | finite _ _ _ _ =>
      match number.shortest? with
      | some decimal => decimal.plainText
      | none => []
  | infinite negative => signText negative ++ ['i', 'n', 'f']
  | nan => ['n', 'a', 'n']

/-- The plain text of a number. -/
def text (number : Binary64) : String := String.ofList number.plainText

/-- The literal text of a finite number. -/
def literalText? (number : Binary64) : Option (List Char) :=
  match number.toInt? with
  | some whole => some (integerText whole)
  | none => number.shortest?.map fun decimal => signText decimal.negative ++ decimal.positional

end Binary64

end Descent
