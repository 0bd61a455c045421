import Descent.Cursor
import Descent.Value

/-!
# Outcomes and failures

A parser either matches, with a value and the position after the text it took, or fails, with the
label of what it expected and the position where.  A failure can be shown as one line, with an
excerpt of the source, or as a diagnostic.
-/

namespace Descent

/-- What was expected, and where. -/
structure Failure where
  /-- Label of what was expected. -/
  expected : String
  cursor : Cursor

/-- The answer of a parser. -/
inductive Outcome where
  /-- A value, and the position after the text taken. -/
  | matched (value : Value) (cursor : Cursor)
  | failed (failure : Failure)

namespace Outcome

/-- The parser matched. -/
def isMatch : Outcome → Bool
  | matched _ _ => true
  | failed _ => false

/-- The offset that an outcome reports. -/
def offset : Outcome → Nat
  | matched _ cursor => cursor.offset
  | failed failure => failure.cursor.offset

end Outcome

namespace Failure

/-- Offset of the failure. -/
def offset (failure : Failure) : Nat := failure.cursor.offset

/-- The place and the label on one line. -/
def headline (failure : Failure) : String :=
  let place := failure.cursor.place
  s!"{place.line}:{place.column}: expected {failure.expected}"

/-- The margin before a source line: its number in four columns or more, and a bar. -/
def gutter (line : Nat) : List Char :=
  let digits := digitsOf line
  List.replicate (4 - digits.length) ' ' ++ digits ++ [' ', '|', ' ']

/-- The line below a source line, with a caret under a column. -/
def caretLine (line column : Nat) : List Char :=
  List.replicate ((gutter line).length - 2) ' ' ++ ['|', ' '] ++
    List.replicate (column - 1) ' ' ++ ['^']

/-- Source lines with their margins, counted from `line`, and the caret line below its line. -/
def excerptFrom (place : Place) : Nat → List (List Char) → List (List Char)
  | _, [] => []
  | line, characters :: others =>
      let shown := gutter line ++ characters
      if line = place.line then
        shown :: caretLine line place.column :: excerptFrom place (line + 1) others
      else shown :: excerptFrom place (line + 1) others

/-- The source lines around the failure, `radius` of them on either side. -/
def excerpt (failure : Failure) (radius : Int) : List (List Char) :=
  let place := failure.cursor.place
  let lines := failure.cursor.source.lines
  let first := max 1 ((place.line : Int) - radius)
  let last := min (lines.length : Int) ((place.line : Int) + radius)
  let window := (lines.drop (first.toNat - 1)).take (last - first + 1).toNat
  excerptFrom place first.toNat window

/-- The headline, an empty line and the excerpt. -/
def withContext (failure : Failure) (radius : Int) : String :=
  "\n".intercalate (failure.headline :: "" :: (failure.excerpt radius).map String.ofList)

/-- The diagnostic of the failure. -/
def toDiagnostic (failure : Failure) : Diagnostic :=
  let span := failure.cursor.span
  if failure.expected = noAlternativeLabel then Diagnostic.noAlternative span
  else if failure.expected = endOfInputLabel then Diagnostic.trailingInput span
  else Diagnostic.expectedToken failure.expected span

end Failure

end Descent
