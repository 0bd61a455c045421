import Descent.Text.Digits

/-!
# Diagnostics

A diagnostic has a code, a message, and optionally a span of the source, a hint and the label of
what was expected.  A span is valid by construction.  Every diagnostic that this library reports is
made by one of the functions at the end of the file.
-/

namespace Descent

/-- The cause that a diagnostic reports. -/
inductive Code where
  | maxDepthExceeded
  | serializationInvalid
  | unexpectedEnd
  | expected
  | noAlternative
  | trailingInput
  | nestingDepthExceeded
  | sourceTooLarge
  deriving DecidableEq, Repr

namespace Code

/-- All codes, in the order of their numbers. -/
def all : List Code :=
  [maxDepthExceeded, serializationInvalid, unexpectedEnd, expected, noAlternative, trailingInput,
    nestingDepthExceeded, sourceTooLarge]

/-- The name that renderings show. -/
def name : Code → String
  | maxDepthExceeded => "MAX_DEPTH_EXCEEDED"
  | serializationInvalid => "SERIALIZATION_INVALID"
  | unexpectedEnd => "UNEXPECTED_EOF"
  | expected => "PARSE_EXPECTED"
  | noAlternative => "PARSE_NO_ALTERNATIVE"
  | trailingInput => "PARSE_TRAILING_INPUT"
  | nestingDepthExceeded => "PARSE_NESTING_DEPTH_EXCEEDED"
  | sourceTooLarge => "SOURCE_TOO_LARGE"

/-- The number: 2000s for tree tools, 3000s for the syntax, 4000s for input limits. -/
def value : Code → Nat
  | maxDepthExceeded => 2010
  | serializationInvalid => 2020
  | unexpectedEnd => 3001
  | expected => 3002
  | noAlternative => 3003
  | trailingInput => 3004
  | nestingDepthExceeded => 3005
  | sourceTooLarge => 4001

/-- The code of a name. -/
def ofName? (text : String) : Option Code := all.find? fun code => code.name == text

/-- The code of a number. -/
def ofValue? (number : Int) : Option Code := all.find? fun code => (code.value : Int) == number

theorem mem_all (code : Code) : code ∈ all := by
  cases code <;> decide

end Code

/-- A part of a source: offsets of its start and end, and the place of its start. -/
structure Span where
  start : Nat
  stop : Nat
  line : Nat
  column : Nat
  start_le_stop : start ≤ stop
  one_le_line : 1 ≤ line
  one_le_column : 1 ≤ column
  deriving DecidableEq

/-- Why four numbers are no span. -/
inductive SpanError where
  | negativeStart (start : Int)
  | stopBeforeStart (start stop : Int)
  | lineBelowOne (line : Int)
  | columnBelowOne (column : Int)
  deriving DecidableEq, Repr

namespace SpanError

/-- The wording of the error. -/
def message : SpanError → String
  | negativeStart start => s!"SourceSpan.start must be >= 0, got {start}"
  | stopBeforeStart start stop => s!"SourceSpan.end ({stop}) must be >= start ({start})"
  | lineBelowOne line => s!"SourceSpan.line must be >= 1 (1-indexed), got {line}"
  | columnBelowOne column => s!"SourceSpan.column must be >= 1 (1-indexed), got {column}"

end SpanError

namespace Span

/-- The span of four numbers; the first violated condition is reported. -/
def ofNumbers (start stop line column : Int) : Except SpanError Span :=
  if negative : start < 0 then .error (.negativeStart start)
  else if reversed : stop < start then .error (.stopBeforeStart start stop)
  else if above : line < 1 then .error (.lineBelowOne line)
  else if left : column < 1 then .error (.columnBelowOne column)
  else
    .ok
      { start := start.toNat
        stop := stop.toNat
        line := line.toNat
        column := column.toNat
        start_le_stop := by omega
        one_le_line := by omega
        one_le_column := by omega }

end Span

/-- A structured message about a source or a tree. -/
structure Diagnostic where
  code : Code
  /-- Description for direct display. -/
  message : String
  span : Option Span
  /-- Suggestion for a repair. -/
  hint : Option String
  /-- Label of what a parser expected. -/
  expected : Option String
  severity : String
  deriving DecidableEq

/-- The label of the failure of a choice without alternatives. -/
def noAlternativeLabel : String := "no alternative matched"

/-- The label of the failure at text that should have ended. -/
def endOfInputLabel : String := "end of input"

namespace Diagnostic

/-- The hint for a label of the call grammar. -/
def hintFor? (label : String) : Option String :=
  if label = ")" then some "Close the argument list of the call"
  else if label = "(" then some "Open an argument list after the call target"
  else if label = "identifier" then some "Call targets start with an ASCII letter"
  else if label = "number" then some "Numbers look like 1, -2 or 3.25"
  else if label = endOfInputLabel then some "Remove the text after the expression"
  else none

/-- The message of a mismatch at an offset. -/
def mismatchMessage (label : String) (offset : Nat) : String :=
  s!"Parse error, expected {label} at char {offset}"

/-- A parser expected something else at a place. -/
def expectedToken (label : String) (span : Span) : Diagnostic :=
  { code := .expected
    message := mismatchMessage label span.start
    span := some span
    hint := hintFor? label
    expected := some label
    severity := "error" }

/-- A choice without alternatives was tried. -/
def noAlternative (span : Span) : Diagnostic :=
  { code := .noAlternative
    message := s!"Parse error, no alternative matched at char {span.start}"
    span := some span
    hint := some "The grammar offers an empty choice here"
    expected := none
    severity := "error" }

/-- Text was left after a complete expression. -/
def trailingInput (span : Span) : Diagnostic :=
  { code := .trailingInput
    message := mismatchMessage endOfInputLabel span.start
    span := some span
    hint := hintFor? endOfInputLabel
    expected := some endOfInputLabel
    severity := "error" }

/-- A diagnostic without a place in a source. -/
private def placeless (code : Code) (message : String) (hint : Option String) : Diagnostic :=
  { code := code, message := message, span := none, hint := hint, expected := none,
    severity := "error" }

/-- A character was read past the end of the text. -/
def unexpectedEnd (position : Int) : Diagnostic :=
  placeless .unexpectedEnd s!"Unexpected EOF at position {position}"
    (some "Check is_eof before reading the current character")

/-- A source nests calls deeper than the limit. -/
def nestingDepthExceeded (depth limit : Int) : Diagnostic :=
  placeless .nestingDepthExceeded s!"Call nesting depth {depth} exceeds maximum ({limit})"
    (some "Flatten the expression or raise max_nesting_depth")

/-- A tree was walked deeper than a guard allows. -/
def maxDepthExceeded (limit : Int) : Diagnostic :=
  placeless .maxDepthExceeded s!"Maximum expression depth ({limit}) exceeded"
    (some "The expression tree is nested too deeply")

/-- A source has more characters than the limit. -/
def sourceTooLarge (size limit : Int) : Diagnostic :=
  placeless .sourceTooLarge
    ("Source size (" ++ String.ofList (groupedText size) ++ " characters) exceeds maximum (" ++
      String.ofList (groupedText limit) ++ " characters)")
    (some "Configure max_source_size in CallExprParser to increase the limit")

/-- A tree has no written form. -/
def serializationInvalid (reason : String) : Diagnostic :=
  placeless .serializationInvalid ("Cannot serialize expression: " ++ reason) none

end Diagnostic

end Descent
