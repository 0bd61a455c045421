import Descent.Walk

/-!
# Evaluation of arithmetic calls

Sums, products and negations of numbers.  The sum of no numbers is the integer zero, which stays an
integer under sums and negation; any other result is a floating-point number.
-/

namespace Descent
namespace Call

/-- The value of an arithmetic expression. -/
inductive Amount where
  /-- The integer zero, the sum of no numbers. -/
  | nothing
  | real (value : Binary64)
  deriving DecidableEq

namespace Amount

/-- The floating-point number of an amount. -/
def toBinary64 : Amount → Binary64
  | nothing => Binary64.zero false
  | real value => value

/-- The sum of two amounts. -/
def add : Amount → Amount → Amount
  | nothing, nothing => nothing
  | left, right => real (left.toBinary64.add right.toBinary64)

/-- The sum of amounts, from left to right. -/
def sum (amounts : List Amount) : Amount := amounts.foldl add nothing

/-- The product of amounts, from left to right, the first one times one. -/
def product (amounts : List Amount) : Amount :=
  real
    (amounts.foldl (fun result amount => result.mul amount.toBinary64)
      (Decimal.toBinary64 ⟨false, 1, 0⟩))

/-- The amount with the other sign. -/
def negate : Amount → Amount
  | nothing => nothing
  | real value => real value.negate

/-- The amount as a value. -/
def toValue : Amount → Value
  | nothing => .integer 0
  | real value => .number value

end Amount

/-- The value of a call of a function with the values of its arguments. -/
def applyFunction (target : String) (arguments : List Amount) : Except Fault Amount :=
  match target, arguments with
  | "Add", _ => .ok (Amount.sum arguments)
  | "Mul", _ => .ok (Amount.product arguments)
  | "Neg", [argument] => .ok argument.negate
  | _, _ => .error (.unknownFunction target arguments.length)

/-- Evaluates a tree; the arguments come before the function. -/
def evaluator : Visitor Unit Amount where
  arrive _ _ memory := .ok memory
  leave target _ results memory := (applyFunction target results).map (·, memory)
  number value memory := .ok (.real value, memory)

end Call
end Descent
