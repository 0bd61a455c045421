import Descent.Call.Printer
import Descent.Json.Text

/-!
# Call expressions as data

An expression as plain data, where a call is the record of its target and its arguments, and the JSON
text of that data.  JSON has no infinities and no undefined number.
-/

namespace Descent
namespace Call

/-- Turns calls into records. -/
def recorder : Visitor Unit Value where
  arrive _ _ memory := .ok memory
  leave target _ results memory :=
    .ok (.record ["target", "args"] [.text target, .list results], memory)
  number value memory := .ok (.number value, memory)

/-- The data of an expression. -/
def toData (tree : Value) : Except Fault Value := recorder.result tree

/-- The fault of a number that JSON cannot hold. -/
def unwritableNumber (number : Binary64) : Fault :=
  unserializable
    s!"Out of range float values are not JSON compliant: {number.text} in JSON output"

/-- The style of a tree: ASCII only, with an indentation that is not below zero, or on one line. -/
def jsonStyle (indent : Option Int) : JsonStyle := ⟨true, indent.map Int.toNat⟩

/-- The JSON text of an expression. -/
def toJson (tree : Value) (indent : Option Int) : Except Fault String :=
  match toData tree with
  | .error fault => .error fault
  | .ok data =>
      match Json.firstUnwritable? data with
      | some number => .error (unwritableNumber number)
      | none => .ok (Json.text (jsonStyle indent) data)

end Call
end Descent
