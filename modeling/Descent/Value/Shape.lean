import Descent.Value

/-!
# Shapes of values

Functions that a grammar applies to the values of its parsers.
-/

namespace Descent
namespace Value

/-- The number of characters of a text or of items of a tuple; nothing else has one. -/
def length? : Value → Option Nat
  | text value => some value.length
  | tuple items => some items.length
  | _ => none

/-- The length of a value, or -1 where there is none. -/
def lengthValue (value : Value) : Value :=
  integer
    (match value.length? with
      | some length => length
      | none => -1)

/-- A tuple of one item. -/
def wrapped (value : Value) : Value := tuple [value]

/-- The item of a tuple at an index, or nothing. -/
def item (index : Nat) : Value → Value
  | tuple items => items.getD index null
  | _ => null

mutual

/-- All texts of nested tuples, one after another. -/
def joined : Value → String
  | text value => value
  | tuple items => joinedItems items
  | _ => ""

/-- All texts of some values, one after another. -/
def joinedItems : List Value → String
  | [] => ""
  | value :: values => joined value ++ joinedItems values

end

end Value
end Descent
