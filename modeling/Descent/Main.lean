import Descent.Batch.Report

/-!
# The command line

Reads the arguments and, if they hold no expression, the standard input; prints the report of the
batch and ends with its status.
-/

namespace Descent

/-- A short description of the arguments. -/
def usage : String :=
  "usage: combiparse [-h] [--strict] [--format json|source] [--context]\n" ++
    "                  [--error-format rust|simple|json] [--verbose] [EXPR ...]\n"

/-- All text of the standard input. -/
partial def readStandardInput (input : IO.FS.Stream) (text : String) : IO String := do
  let next ← input.getLine
  if next.isEmpty then return text else readStandardInput input (text ++ next)

end Descent

open Descent in
/-- Run a batch. -/
def main (arguments : List String) : IO UInt32 := do
  match Batch.Command.ofArguments arguments with
  | .help =>
      IO.print usage
      return 0
  | .misuse =>
      IO.eprint usage
      return 2
  | .run options =>
      let input ← if options.expressions.isEmpty then
        readStandardInput (← IO.getStdin) "" else pure ""
      let report := options.perform .debug input
      IO.print report.output
      IO.eprint report.errors
      match report.escaped with
      | some fault => throw (IO.userError (fault.message?.getD ""))
      | none => return report.status.toUInt32
