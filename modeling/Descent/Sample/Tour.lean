import Descent.Call.Evaluation
import Descent.Call.Json
import Descent.Call.Reader
import Descent.Diagnostic.Format
import Descent.Sample.Sentence

/-!
# A tour of call expressions

Reading, errors, limits, printing and evaluation, each with a title and a few lines, and the log of
what is read on the way.
-/

namespace Descent
namespace Tour

/-- The title of a section. -/
def title (number : Nat) (subject : String) : String :=
  (if number = 1 then "" else "\n") ++ Sentence.banner (s!"Example {number}: " ++ subject)

/-- A text as a line. -/
private def asLine (text : String) : String := text ++ "\n"

/-- A text filled with blanks to a width. -/
def padded (width : Nat) (text : String) : String :=
  text ++ String.ofList (List.replicate (width - text.length) ' ')

/-- A tree as it is shown, or the wording of a fault. -/
def shown : Except Fault Value → String
  | .ok tree => tree.display
  | .error fault => fault.message?.getD ""

/-- A text, or the wording of a fault. -/
def textOf : Except Fault String → String
  | .ok text => text
  | .error fault => fault.message?.getD ""

/-- Expressions of growing size. -/
def expressions : List String := ["1", "Foo()", "Foo(Bar())", "Foo(Bar(1,2,3))"]

/-- A call without its closing parenthesis. -/
def unclosed : String := "Foo(1,2"

/-- A call and a parenthesis too many. -/
def trailing : String := "Foo())"

/-- A thousand open calls. -/
def deep : String := String.ofList (List.replicate 1000 ['F', '(']).flatten

/-- An expression in an unusual spelling. -/
def unusual : String := "Add(+1.50,Mul(2.,3))"

/-- An arithmetic expression. -/
def arithmetic : String := "Add(1,Mul(2,3),Neg(4))"

/-- The reader that wants an expression to span the source. -/
def strictReader : Call.Reader := .configure true none none

/-- Texts and their trees. -/
def reading : String :=
  title 1 "Parsing" ++
    String.join
      (expressions.map fun text =>
        asLine (padded 20 (quotedText text) ++ " -> " ++ shown (Call.read text)))

/-- A syntax error in all its forms. -/
def errorForms (error : SyntaxError) : String :=
  asLine ("[ERROR] " ++ error.notice.message) ++
    asLine
      ("        expected=" ++ quotedText error.expected ++ s!" offset={error.offset}") ++
    asLine error.notice.report ++
    match error.failure with
    | some failure => asLine (failure.withContext 2)
    | none => ""

/-- How a text that is no expression is reported. -/
def errors : String :=
  title 2 "Parse errors" ++
    match Call.read unclosed with
    | .error (.syntaxError error) => errorForms error
    | _ => ""

/-- Trailing text and deep nesting. -/
def limits : String :=
  title 3 "Strict mode and limits" ++
    asLine ("permissive: " ++ shown (Call.read trailing)) ++
    asLine ("strict:     " ++ shown (strictReader.read trailing)) ++
    asLine ("nesting:    " ++ shown (Call.read deep))

/-- An expression as source text and as JSON. -/
def printing : String :=
  title 4 "Serialization" ++
    match Call.read unusual with
    | .ok tree =>
        asLine ("source: " ++ textOf (Call.print tree)) ++
          asLine "json:" ++ asLine (textOf (Call.toJson tree (some 2)))
    | .error _ => ""

/-- An expression and its value. -/
def evaluation : String :=
  title 5 "Visitor" ++
    match Call.read arithmetic with
    | .ok tree =>
        let amount := Call.evaluator.result tree
        asLine (arithmetic ++ " = " ++ shown (amount.map Call.Amount.toValue))
    | .error _ => ""

/-- What the tour prints. -/
def printed : String := reading ++ errors ++ limits ++ printing ++ evaluation

/-- The log entries of the tour, in order of its readings. -/
def entries : List Entry :=
  let standard := Call.Reader.standard
  expressions.flatMap standard.readEntries ++ standard.readEntries unclosed ++
    standard.readEntries trailing ++ strictReader.readEntries trailing ++
    standard.readEntries deep ++ standard.readEntries unusual ++ standard.readEntries arithmetic

end Tour
end Descent
