import Descent.Batch.Options
import Descent.Call.Json
import Descent.Call.Reader

/-!
# Batches of call expressions

Inputs are read and printed one after another: a good one adds its rendering to the standard output,
a bad one its error to the standard error.  The batch fails if an input fails.  Some families of
faults are expected of inputs and reported; any other fault ends the batch.  A verbose batch shows
its log on the standard error too, from the level on at which the log is kept.
-/

namespace Descent
namespace Batch

/-- What one input adds to the outputs. -/
structure Piece where
  output : String
  errors : String
  failed : Bool
  deriving DecidableEq, Repr

/-- What a batch has printed, and how many of its inputs failed. -/
structure Report where
  output : String
  errors : String
  failures : Nat
  /-- The fault that ended the batch, if there was one. -/
  escaped : Option Fault

namespace Report

/-- Nothing was read. -/
def start : Report := ⟨"", "", 0, none⟩

/-- The exit status. -/
def status (report : Report) : Nat :=
  if report.failures = 0 ∧ report.escaped.isNone then 0 else 1

/-- More lines on the standard error. -/
def note (report : Report) (lines : String) : Report :=
  { report with errors := report.errors ++ lines }

/-- The report with what one more input adds. -/
def add (report : Report) (piece : Piece) : Report :=
  { report with
    output := report.output ++ piece.output
    errors := report.errors ++ piece.errors
    failures := if piece.failed then report.failures + 1 else report.failures }

end Report

/-- A text as a line. -/
def line (text : String) : String := text ++ "\n"

/-- The way in which expressions are read. -/
def Options.reader (options : Options) : Call.Reader := .configure options.strict none none

/-- The rendering of an expression. -/
def Options.render (options : Options) (tree : Value) : Except Fault String :=
  match options.rendering with
  | .source => Call.print tree
  | .json => Call.toJson tree (some 2)

/-- The rendering of an input. -/
def Options.answer (options : Options) (text : String) : Except Fault String :=
  match options.reader.read text with
  | .error fault => .error fault
  | .ok tree => options.render tree

/-- How diagnostics of a layout are rendered. -/
def formatterOf (layout : Layout) : Formatter := ⟨layout, false, false, Formatter.defaultLength⟩

/-- The message of a fault, or its diagnostic in the layout asked for. -/
def Options.describe (options : Options) (fault : Fault) : String :=
  match options.errorLayout, fault.diagnostic? with
  | some layout, some diagnostic => (formatterOf layout).format diagnostic
  | _, _ => fault.message?.getD ""

/-- The excerpt of a syntax error, if excerpts are asked for. -/
def Options.excerpt (options : Options) (fault : Fault) : String :=
  match options.context, fault with
  | true, .syntaxError error =>
      match error.failure with
      | some failure => line (failure.withContext 2)
      | none => ""
  | _, _ => ""

/-- The families of faults that are expected of an input. -/
def expectedFamilies : List Family := [.syntaxErrors, .depthLimits, .values]

/-- What is printed for a fault, if it is of an expected family. -/
def Options.handle? (options : Options) (fault : Fault) : Option String :=
  if fault.families.any expectedFamilies.contains then
    some (line (options.describe fault) ++ options.excerpt fault)
  else none

/-- What an input adds to the outputs; its rendering is complete before anything is printed. -/
def Options.piece (options : Options) (text : String) : Except Fault Piece :=
  match options.answer text with
  | .ok rendering => .ok ⟨line rendering, "", false⟩
  | .error fault =>
      match options.handle? fault with
      | some errors => .ok ⟨"", errors, true⟩
      | none => .error fault

/-- Log entries as lines. -/
def logLines (entries : List Entry) : String :=
  String.join (entries.map fun entry => line entry.consoleLine)

/-- The entries that are kept at a level, as lines, if the log is asked for. -/
def Options.log (options : Options) (level : Level) (entries : List Entry) : String :=
  if options.verbose then logLines (entries.filter fun entry => level.passes entry.level) else ""

/-- The lines of the standard input, without their line ends. -/
def inputLines (text : String) : List String :=
  let lines := linesOf text.toList
  let complete := if lines.getLast? = some [] then lines.dropLast else lines
  complete.map fun characters =>
    String.ofList (characters.reverse.dropWhile (· == '\r')).reverse

/-- The inputs of a batch. -/
def Options.inputs (options : Options) (standardInput : String) : List String :=
  if options.expressions.isEmpty then inputLines standardInput else options.expressions

/-- The log entries of a batch, the last of which tells how many inputs failed. -/
def Options.entries (options : Options) (inputs : List String) : List Entry :=
  let failures := inputs.countP fun text => !(options.answer text).isOk
  inputs.flatMap options.reader.readEntries ++ [.finished failures]

/-- Read and print inputs one after another, up to a fault that is not expected. -/
def Options.process (options : Options) (level : Level) (report : Report) : List String → Report
  | [] => report
  | text :: texts =>
      let begun :=
        if options.verbose then report.note (options.log level (options.reader.readEntries text))
        else report
      match options.piece text with
      | .error fault => { begun with escaped := some fault }
      | .ok piece => process options level (begun.add piece) texts

/-- Read and print inputs, with a log kept at a level that tells at the end how many failed. -/
def Options.report (options : Options) (level : Level) (inputs : List String) : Report :=
  let report := options.process level .start inputs
  if report.escaped.isSome then report
  else report.note (options.log level [.finished report.failures])

/-- Read and print the expressions of the arguments or, with none, the standard input. -/
def Options.perform (options : Options) (level : Level) (standardInput : String) : Report :=
  options.report level (options.inputs standardInput)

end Batch
end Descent
