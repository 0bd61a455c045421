import Descent.Number.Power

/-!
# Decimal digits

Digits of natural numbers, the number that a row of digits denotes, and digits in groups of three.
-/

namespace Descent

/-- A decimal digit of the ASCII range. -/
def isDigit (character : Char) : Bool :=
  decide ('0' ≤ character) && decide (character ≤ '9')

/-- A letter of the ASCII range. -/
def isLetter (character : Char) : Bool :=
  (decide ('a' ≤ character) && decide (character ≤ 'z')) ||
    (decide ('A' ≤ character) && decide (character ≤ 'Z'))

/-- The number that a digit denotes. -/
def digitValue (character : Char) : Nat := character.toNat - 48

/-- The number that a row of digits denotes, most significant digit first, after an earlier number. -/
def digitsFrom (earlier : Nat) (digits : List Char) : Nat :=
  digits.foldl (fun number digit => 10 * number + digitValue digit) earlier

/-- The number that a row of digits denotes, most significant digit first. -/
def digitsValue (digits : List Char) : Nat := digitsFrom 0 digits

theorem digitsFrom_cons (earlier : Nat) (digit : Char) (digits : List Char) :
    digitsFrom earlier (digit :: digits) =
      digitsFrom (10 * earlier + digitValue digit) digits := by
  unfold digitsFrom
  rw [List.foldl_cons]

theorem digitsFrom_eq (earlier : Nat) (digits : List Char) :
    digitsFrom earlier digits = earlier * power 10 digits.length + digitsValue digits := by
  induction digits generalizing earlier with
  | nil => simp [digitsFrom, digitsValue]
  | cons digit digits induction =>
      rw [digitsValue, digitsFrom_cons, digitsFrom_cons, induction,
        induction (10 * 0 + digitValue digit), List.length_cons, power_succ, Nat.mul_zero,
        Nat.zero_add, Nat.add_mul, Nat.mul_comm 10 earlier, Nat.mul_assoc,
        Nat.mul_comm (power 10 digits.length) 10, Nat.add_assoc]

theorem digitsValue_append (left right : List Char) :
    digitsValue (left ++ right) =
      digitsValue left * power 10 right.length + digitsValue right := by
  rw [← digitsFrom_eq]
  simp [digitsValue, digitsFrom]

/--
The number that a row of digits denotes, found by cutting a long row in halves at most `depth` times,
which keeps the numbers multiplied small.
-/
def digitsValueHalved : Nat → List Char → Nat
  | 0, digits => digitsValue digits
  | depth + 1, digits =>
      if digits.length < 300 then digitsValue digits
      else
        let half := digits.length / 2
        let upper := digits.take half
        let lower := digits.drop half
        digitsValueHalved depth upper * power 10 lower.length + digitsValueHalved depth lower

theorem digitsValueHalved_eq (depth : Nat) (digits : List Char) :
    digitsValueHalved depth digits = digitsValue digits := by
  induction depth generalizing digits with
  | zero => rfl
  | succ depth induction =>
      rw [digitsValueHalved]
      split
      · rfl
      · simp only [induction]
        rw [← digitsValue_append, List.take_append_drop]

/-- The digits of a number without leading zeros; zero is one digit. -/
def digitsOf (number : Nat) : List Char := Nat.toDigits 10 number

/-- A number with its sign, as text. -/
def integerText (number : Int) : List Char :=
  if number < 0 then '-' :: digitsOf number.natAbs else digitsOf number.natAbs

/-- Digits with a comma before every third one, counted from the right. -/
def groupThousands (digits : List Char) : List Char :=
  (digits.foldr
    (fun digit (count, grouped) =>
      if count % 3 = 0 ∧ count ≠ 0 then (count + 1, digit :: ',' :: grouped)
      else (count + 1, digit :: grouped))
    ((0, []) : Nat × List Char)).2

/-- A number with its sign and with commas between thousands. -/
def groupedText (number : Int) : List Char :=
  let digits := groupThousands (digitsOf number.natAbs)
  if number < 0 then '-' :: digits else digits

end Descent
