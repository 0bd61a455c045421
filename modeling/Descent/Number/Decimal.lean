import Descent.Number.Binary64
import Descent.Text.Digits

/-!
# Decimal numbers and their reading

A decimal is a sign, a whole number of units and the power of ten of one unit.  Number literals are
read as exact decimals first; the floating-point number nearest to the decimal is taken last.
-/

namespace Descent

/-- The number `± units * 10 ^ exponent`. -/
structure Decimal where
  negative : Bool
  /-- Count of units. -/
  units : Nat
  /-- Power of ten of one unit. -/
  exponent : Int
  deriving DecidableEq, Repr

namespace Decimal

/-- The exact magnitude. -/
def magnitude (decimal : Decimal) : Rat := (decimal.units : Rat) * tenPower decimal.exponent

/-- The exact value. -/
def toRat (decimal : Decimal) : Rat :=
  if decimal.negative then -decimal.magnitude else decimal.magnitude

/-- The nearest floating-point number; zero keeps the sign. -/
def toBinary64 (decimal : Decimal) : Binary64 :=
  Binary64.nearest decimal.negative decimal.magnitude

/-- The decimal of digits before and after the point. -/
def ofDigits (negative : Bool) (whole fraction : List Char) : Decimal :=
  ⟨negative, digitsValueHalved 12 (whole ++ fraction), -(fraction.length : Int)⟩

/-- Take a sign off the front; no sign is the plus sign. -/
def splitSign : List Char → Bool × List Char
  | '-' :: characters => (true, characters)
  | '+' :: characters => (false, characters)
  | characters => (false, characters)

/-- The exponent of a scientific notation: a sign and at least one digit. -/
def readExponent (characters : List Char) : Option Int :=
  let (negative, digits) := splitSign characters
  if digits.isEmpty || !digits.all isDigit then none
  else some (if negative then -(digitsValue digits : Int) else (digitsValue digits : Int))

/--
A decimal in positional or scientific notation: an optional sign, digits, an optional point with
optional digits, and an optional exponent.
-/
def read (characters : List Char) : Option Decimal :=
  let (negative, unsigned) := splitSign characters
  let whole := unsigned.takeWhile isDigit
  let afterWhole := unsigned.dropWhile isDigit
  let (fraction, afterFraction) :=
    match afterWhole with
    | '.' :: rest => (rest.takeWhile isDigit, rest.dropWhile isDigit)
    | rest => ([], rest)
  if whole.isEmpty then none
  else
    let decimal := ofDigits negative whole fraction
    match afterFraction with
    | [] => some decimal
    | 'e' :: digits =>
        (readExponent digits).map fun exponent =>
          { decimal with exponent := decimal.exponent + exponent }
    | _ => none

end Decimal

namespace Binary64

/-- The number that a text denotes: a decimal, an infinity or the undefined number. -/
def read (characters : List Char) : Option Binary64 :=
  if characters = ['i', 'n', 'f'] then some (infinite false)
  else if characters = ['-', 'i', 'n', 'f'] then some (infinite true)
  else if characters = ['n', 'a', 'n'] then some nan
  else (Decimal.read characters).map Decimal.toBinary64

end Binary64

end Descent
