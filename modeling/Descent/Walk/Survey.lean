import Descent.Walk

/-!
# Plain visitors

Three visitors that compute little: one gives every node back, one counts calls, and one lists what
it meets.
-/

namespace Descent
namespace Visitor

/-- Gives a call back as it is, and a number as a floating-point number. -/
def plain : Visitor Unit Value where
  arrive _ _ memory := .ok memory
  leave target arguments _ memory := .ok (.call target arguments, memory)
  number value memory := .ok (.number value, memory)

/-- Counts the calls of a tree. -/
def count : Visitor Unit Nat where
  arrive _ _ memory := .ok memory
  leave _ _ results memory := .ok (results.foldl Nat.add 1, memory)
  number _ memory := .ok (0, memory)

/-- Gives every node back and lists targets and numbers in order of their visit, the latest first. -/
def collect : Visitor (List String) Value where
  arrive target _ seen := .ok (target :: seen)
  leave target arguments _ seen := .ok (.call target arguments, seen)
  number value seen := .ok (.number value, value.text :: seen)

end Visitor
end Descent
