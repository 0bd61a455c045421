import Descent.Fault
import Descent.Json.Text

/-!
# Renderings of diagnostics

A diagnostic is rendered as a report of several lines, as one line of plain text, or as one line of
JSON.  On demand the message and the hint are cut to a length, and the severity of a report is
coloured.
-/

namespace Descent

/-- The form of a rendering. -/
inductive Layout where
  /-- Several lines: the message, the place, what was expected, and the hint. -/
  | report
  /-- The code and the message. -/
  | simple
  /-- One JSON object. -/
  | json
  deriving DecidableEq, Repr

namespace Layout

/-- All layouts. -/
def all : List Layout := [report, simple, json]

/-- The name of a layout. -/
def name : Layout → String
  | report => "rust"
  | simple => "simple"
  | json => "json"

/-- The layout of a name. -/
def ofName? (text : String) : Option Layout := all.find? fun layout => layout.name == text

end Layout

/-- How diagnostics are rendered. -/
structure Formatter where
  layout : Layout
  /-- Cut messages and hints. -/
  sanitize : Bool
  color : Bool
  /-- Greatest length of a cut text; a negative one leaves characters off the end. -/
  maxLength : Int
  deriving DecidableEq, Repr

namespace Formatter

/-- The length to which texts are cut where none is given. -/
def defaultLength : Int := 100

/-- A report without colour and without cuts. -/
def plainReport : Formatter := ⟨.report, false, false, defaultLength⟩

/-- Cut a text that is longer than a limit, and mark the cut. -/
def truncate (limit : Int) (characters : List Char) : List Char :=
  if limit < characters.length then
    let kept := if limit < 0 then (limit + characters.length).toNat else limit.toNat
    characters.take kept ++ ['.', '.', '.']
  else characters

/-- A message or a hint as it is shown. -/
def shown (formatter : Formatter) (text : String) : String :=
  if formatter.sanitize then String.ofList (truncate formatter.maxLength text.toList) else text

/-- A text that is there and not empty. -/
def nonempty? : Option String → Option String
  | some text => if text = "" then none else some text
  | none => none

/-- The severity of a report: a warning, or an error for all else. -/
def severityText (formatter : Formatter) (diagnostic : Diagnostic) : String :=
  let warning := diagnostic.severity == "warning"
  let severity := if warning then "warning" else "error"
  if formatter.color then
    (if warning then "\x1b[1;33m" else "\x1b[1;31m") ++ severity ++ "\x1b[0m"
  else severity

/-- The lines of a report. -/
def reportLines (formatter : Formatter) (diagnostic : Diagnostic) : List String :=
  let severity := formatter.severityText diagnostic
  let headline :=
    severity ++ "[" ++ diagnostic.code.name ++ "]: " ++ formatter.shown diagnostic.message
  let place :=
    diagnostic.span.map fun span => s!"  --> line {span.line}, column {span.column}"
  let expected := (nonempty? diagnostic.expected).map fun label => "  = expected: " ++ label
  let hint := (nonempty? diagnostic.hint).map fun hint => "  = help: " ++ formatter.shown hint
  headline :: (place.toList ++ expected.toList ++ hint.toList)

/-- The code and the message on one line. -/
def simpleLine (formatter : Formatter) (diagnostic : Diagnostic) : String :=
  diagnostic.code.name ++ ": " ++ formatter.shown diagnostic.message

/-- The fields of the JSON object; optional ones are there if they say something. -/
def fields (formatter : Formatter) (diagnostic : Diagnostic) : List (String × Value) :=
  let place :=
    match diagnostic.span with
    | none => []
    | some span =>
        [("line", Value.integer span.line), ("column", .integer span.column),
          ("start", .integer span.start), ("end", .integer span.stop)]
  let expected := (nonempty? diagnostic.expected).map fun label => ("expected", Value.text label)
  let hint :=
    (nonempty? diagnostic.hint).map fun hint => ("hint", Value.text (formatter.shown hint))
  [("code", .text diagnostic.code.name), ("code_value", .integer diagnostic.code.value),
    ("message", .text (formatter.shown diagnostic.message)),
    ("severity", .text diagnostic.severity)] ++
    place ++ expected.toList ++ hint.toList

/-- JSON on one line, with characters beyond ASCII as they are. -/
def jsonStyle : JsonStyle := ⟨false, none⟩

/-- The JSON object on one line. -/
def jsonLine (formatter : Formatter) (diagnostic : Diagnostic) : String :=
  let fields := formatter.fields diagnostic
  Json.text jsonStyle (.record (fields.map Prod.fst) (fields.map Prod.snd))

/-- The rendering of a diagnostic. -/
def format (formatter : Formatter) (diagnostic : Diagnostic) : String :=
  match formatter.layout with
  | .report => "\n".intercalate (formatter.reportLines diagnostic)
  | .simple => formatter.simpleLine diagnostic
  | .json => formatter.jsonLine diagnostic

/-- The renderings of diagnostics, with an empty line between them. -/
def formatAll (formatter : Formatter) (diagnostics : List Diagnostic) : String :=
  "\n\n".intercalate (diagnostics.map formatter.format)

end Formatter

/-- The report of a notice: its diagnostic, or the plain message. -/
def Notice.report : Notice → String
  | .plain message => message
  | .structured diagnostic => Formatter.plainReport.format diagnostic

/-- The diagnostic code of a name, or a fault. -/
def Code.lookupName (name : String) : Except Fault Code :=
  match Code.ofName? name with
  | some code => .ok code
  | none => .error (.unknownCodeName name)

/-- The diagnostic code of a number, or a fault. -/
def Code.lookupValue (value : Int) : Except Fault Code :=
  match Code.ofValue? value with
  | some code => .ok code
  | none => .error (.unknownCodeValue value)

/-- The layout of a name, or a fault. -/
def Layout.lookupName (name : String) : Except Fault Layout :=
  match Layout.ofName? name with
  | some layout => .ok layout
  | none => .error (.unknownLayout name)

/-- The span of four numbers, or a fault. -/
def Span.check (start stop line column : Int) : Except Fault Span :=
  match Span.ofNumbers start stop line column with
  | .ok span => .ok span
  | .error cause => .error (.invalidSpan cause)

end Descent
