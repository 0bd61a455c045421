import Descent.Outcome

/-!
# Faults

A fault is the cause for which an operation gives no answer.  Failures to match are no faults: a
parser reports them as outcomes, and only the entry point for call expressions turns one into a
syntax error.  The wording of every fault is in `Fault.message?`.
-/

namespace Descent

/-- What an error says: a plain message or a diagnostic. -/
inductive Notice where
  | plain (message : String)
  | structured (diagnostic : Diagnostic)

namespace Notice

/-- The message of a notice. -/
def message : Notice → String
  | plain message => message
  | structured diagnostic => diagnostic.message

/-- The diagnostic of a structured notice. -/
def diagnostic? : Notice → Option Diagnostic
  | plain _ => none
  | structured diagnostic => some diagnostic

end Notice

/-- An input did not match the grammar. -/
structure SyntaxError where
  notice : Notice
  /-- Label of what was expected. -/
  expected : String
  offset : Int
  /-- The text that was read. -/
  source : String
  /-- The failure that was turned into the error. -/
  failure : Option Failure

/-- The syntax error of a failure to read a source. -/
def SyntaxError.ofFailure (failure : Failure) (source : String) : SyntaxError :=
  { notice := .structured failure.toDiagnostic
    expected := failure.expected
    offset := failure.offset
    source := source
    failure := some failure }

/-- Why a grammar cannot look up a rule. -/
inductive UndefinedRule where
  /-- A reference was run and its rule is not defined. -/
  | reference (rule grammar : String)
  /-- A grammar mentions rules that are not defined. -/
  | incomplete (grammar : String) (missing : List String)
  /-- Any other lookup, in its own words. -/
  | stated (message : String)

/-- The wording of a failed lookup. -/
def UndefinedRule.message : UndefinedRule → String
  | reference rule grammar => s!"Rule '{rule}' is not defined in grammar '{grammar}'"
  | incomplete grammar missing =>
      s!"Grammar '{grammar}' references undefined rules: " ++ ", ".intercalate missing
  | stated message => message

/-- The cause for which an operation gives no answer. -/
inductive Fault where
  /-- An error of no particular kind. -/
  | general (notice : Notice)
  | syntaxError (error : SyntaxError)
  | depthLimit (notice : Notice)
  /-- A tree has no written form. -/
  | unserializable (diagnostic : Diagnostic)
  | undefinedRule (cause : UndefinedRule)
  | ruleRedefined (rule grammar : String)
  | emptyLiteral
  /-- A pattern text has no meaning. -/
  | malformedPattern
  | offsetOutOfRange (offset : Int) (size : Nat)
  /-- A character was read at the end of the text. -/
  | endOfText (position : Nat)
  | invalidSpan (cause : SpanError)
  | sourceTooLarge (size limit : Int)
  /-- A node of some kind is no expression. -/
  | notExpression (kind : String)
  | integerTooLarge
  | unknownFunction (target : String) (arguments : Nat)
  | unknownCodeName (name : String)
  | unknownCodeValue (value : Int)
  | unknownLayout (name : String)
  | unknownReference (name : String)
  /-- A level of depth takes no frames. -/
  | zeroDivision
  /-- A run went deeper than any grammar that consumes text before it recurses. -/
  | unbounded

namespace Fault

/-- The wording of a fault; two kinds have none. -/
def message? : Fault → Option String
  | general notice => some notice.message
  | syntaxError error => some error.notice.message
  | depthLimit notice => some notice.message
  | unserializable diagnostic => some diagnostic.message
  | undefinedRule cause => some cause.message
  | ruleRedefined rule grammar => some s!"Rule '{rule}' is already defined in grammar '{grammar}'"
  | emptyLiteral => some "literal() requires a non-empty string"
  | malformedPattern => none
  | offsetOutOfRange offset size => some s!"Cursor offset {offset} out of range 0..{size}"
  | endOfText position => some (Diagnostic.unexpectedEnd position).message
  | invalidSpan cause => some cause.message
  | sourceTooLarge size limit => some (Diagnostic.sourceTooLarge size limit).message
  | notExpression kind => some s!"Not a call expression node: {kind}"
  | integerTooLarge => some "int too large to convert to float"
  | unknownFunction target arguments => some s!"Unknown function {target}/{arguments}"
  | unknownCodeName name => some name
  | unknownCodeValue value => some s!"{value} is not a valid DiagnosticCode"
  | unknownLayout name => some (quotedText name ++ " is not a valid OutputFormat")
  | unknownReference name => some name
  | zeroDivision => none
  | unbounded => some "the grammar recursed without consuming text"

/-- The diagnostic that a fault carries. -/
def diagnostic? : Fault → Option Diagnostic
  | general notice => notice.diagnostic?
  | syntaxError error => error.notice.diagnostic?
  | depthLimit notice => notice.diagnostic?
  | unserializable diagnostic => some diagnostic
  | _ => none

end Fault

/-- A family of faults that callers handle alike. -/
inductive Family where
  | toolkit
  | syntaxErrors
  | depthLimits
  | values
  | lookups
  deriving DecidableEq, Repr

/-- The families that a fault belongs to. -/
def Fault.families : Fault → List Family
  | general _ => [.toolkit]
  | syntaxError _ => [.toolkit, .syntaxErrors]
  | depthLimit _ => [.toolkit, .depthLimits]
  | unserializable _ => [.values]
  | undefinedRule _ => [.lookups]
  | ruleRedefined _ _ => [.values]
  | emptyLiteral => [.values]
  | malformedPattern => []
  | offsetOutOfRange _ _ => [.values]
  | endOfText _ => []
  | invalidSpan _ => [.values]
  | sourceTooLarge _ _ => [.values]
  | notExpression _ => []
  | integerTooLarge => []
  | unknownFunction _ _ => [.values]
  | unknownCodeName _ => [.lookups]
  | unknownCodeValue _ => [.values]
  | unknownLayout _ => [.values]
  | unknownReference _ => [.lookups]
  | zeroDivision => []
  | unbounded => []

namespace Cursor

/-- The position at an offset; one outside the source is a fault. -/
def locate (source : Source) (offset : Int) : Except Fault Cursor :=
  match Cursor.ofOffset? source offset with
  | some cursor => .ok cursor
  | none => .error (.offsetOutOfRange offset source.size)

/-- The position after a move by a signed count; one before the start is a fault. -/
def move (cursor : Cursor) (count : Int) : Except Fault Cursor :=
  locate cursor.source (cursor.target count)

/-- The character at the position; at the end there is none. -/
def current (cursor : Cursor) : Except Fault Char :=
  match cursor.current? with
  | some character => .ok character
  | none => .error (.endOfText cursor.offset)

end Cursor

end Descent
