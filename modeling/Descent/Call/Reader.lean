import Descent.Call.Grammar
import Descent.Call.Nesting
import Descent.Depth

/-!
# Reading call expressions

A reader turns a source into an expression.  It refuses a source that is too long or nested too
deeply before the grammar is run; a failure of the grammar becomes a syntax error here and nowhere
else.  A strict reader wants the expression to span the source, any other ignores text after it.
-/

namespace Descent
namespace Call

/-- A way to read call expressions. -/
structure Reader where
  strict : Bool
  /-- Greatest number of characters of a source; nothing is checked unless it is positive. -/
  maxSize : Int
  /-- Greatest number of calls open at a time. -/
  maxDepth : Int
  deriving DecidableEq, Repr

namespace Reader

/-- The size limit used where none is given. -/
def defaultSize : Int := 1048576

/-- The request that a reader makes of the stack: fourteen frames for each level of calls. -/
def depthRequest (requested : Option Int) : DepthRequest :=
  .usual (requested.getD defaultDepth) 14

/-- A reader with given limits or the usual ones. -/
def configure (strict : Bool) (maxSize maxDepth : Option Int) : Reader :=
  ⟨strict, maxSize.getD defaultSize, (depthRequest maxDepth).granted⟩

/-- The reader that ignores trailing text, with the usual limits. -/
def standard : Reader := configure false none none

/-- The reader as a reader of a session sees it. -/
def display (reader : Reader) : String :=
  "CallExprParser(strict=" ++ (if reader.strict then "True" else "False") ++
    s!", max_source_size={reader.maxSize}, max_nesting_depth={reader.maxDepth})"

/-- The source is longer than the limit. -/
def isTooLarge (reader : Reader) (source : Source) : Bool :=
  decide (0 < reader.maxSize) && decide (reader.maxSize < source.size)

/-- The source nests calls deeper than the limit. -/
def isTooDeep (reader : Reader) (source : Source) : Bool :=
  decide (reader.maxDepth < nestingDepth source.chars)

/-- The size is checked first, the nesting second. -/
def checkLimits (reader : Reader) (source : Source) : Except Fault Unit :=
  if reader.isTooLarge source then .error (.sourceTooLarge source.size reader.maxSize)
  else if reader.isTooDeep source then
    .error
      (.depthLimit
        (.structured
          (Diagnostic.nestingDepthExceeded (nestingDepth source.chars) reader.maxDepth)))
  else .ok ()

/-- The parser that a reader runs. -/
def parser (reader : Reader) : Parser :=
  if reader.strict then wholeExpression else expression

/-- The outcome of the grammar on a source within the limits. -/
def outcome (reader : Reader) (source : Source) : Except Fault Outcome :=
  match reader.checkLimits source with
  | .error fault => .error fault
  | .ok () => reader.parser.outcomeAt environment (Cursor.start source)

/-- The expression that a text denotes. -/
def read (reader : Reader) (text : String) : Except Fault Value :=
  match reader.outcome (Source.ofString text) with
  | .error fault => .error fault
  | .ok (.matched value _) => .ok value
  | .ok (.failed failure) => .error (.syntaxError (.ofFailure failure text))

/-- What finding the outcome of a source reports. -/
def outcomeEntries (reader : Reader) (source : Source) : List Entry :=
  if !reader.isTooLarge source && reader.isTooDeep source then
    [.tooDeep (nestingDepth source.chars) reader.maxDepth]
  else []

/-- What reading a text reports. -/
def readEntries (reader : Reader) (text : String) : List Entry :=
  let source := Source.ofString text
  .reading source.size reader.strict ::
    (reader.outcomeEntries source ++
      match reader.outcome source with
      | .ok (.failed failure) => [.notRead failure.offset failure.expected]
      | _ => [])

end Reader

/-- The expression that a text denotes; text after it is ignored. -/
def read (text : String) : Except Fault Value := Reader.standard.read text

end Call
end Descent
