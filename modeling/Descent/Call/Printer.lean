import Descent.Walk

/-!
# Printing call expressions

The source text of an expression, without blanks.  A target must be an identifier and a number must
be finite; a number is printed as a literal that reads back as the same number.
-/

namespace Descent
namespace Call

/-- A letter and any letters and digits, all of the ASCII range. -/
def isIdentifier : List Char → Bool
  | [] => false
  | first :: others =>
      isLetter first && others.all fun character => isLetter character || isDigit character

/-- The fault of a tree that has no written form. -/
def unserializable (reason : String) : Fault :=
  .unserializable (Diagnostic.serializationInvalid reason)

/-- The literal of a number. -/
def numberText (number : Binary64) : Except Fault String :=
  match number.literalText? with
  | some literal => .ok (String.ofList literal)
  | none => .error (unserializable s!"number {number.text} has no literal form")

/-- Refuses a target that is no identifier. -/
def checkTarget (target : String) : Except Fault Unit :=
  if isIdentifier target.toList then .ok ()
  else .error (unserializable ("call target " ++ quotedText target ++ " is not an identifier"))

/-- The text of a call of a target with the texts of its arguments. -/
def callText (target : String) (arguments : List String) : String :=
  target ++ "(" ++ ",".intercalate arguments ++ ")"

/-- Prints a tree; a target is checked before its arguments are printed. -/
def printer : Visitor Unit String where
  arrive target _ _ := checkTarget target
  leave target _ results _ := .ok (callText target results, ())
  number value _ := (numberText value).map (·, ())

/-- The source text of an expression. -/
def print (tree : Value) : Except Fault String := printer.result tree

end Call
end Descent
