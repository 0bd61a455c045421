import Descent.Parser.Action

/-!
# Runs of parsers

A run is bounded by a depth that goes down by one at each step into a term or a rule, so that it is
a total function of the term.  The depth used by `Parser.run` is enough for every grammar that takes
text before it comes back to a rule.
-/

namespace Descent

/-- What a run looks up: the rules of a grammar, and whether attempts are logged. -/
structure Environment where
  /-- Name of the grammar. -/
  grammar : String
  /-- Rules in order of definition. -/
  rules : List (String × Parser)
  /-- Traced parsers write their log entries. -/
  tracing : Bool

namespace Environment

/-- No rules and no tracing. -/
def empty : Environment := ⟨"", [], false⟩

/-- Number of nodes of all rules. -/
def weight (environment : Environment) : Nat :=
  Parser.weightAll (environment.rules.map Prod.snd)

end Environment

namespace Parser

/-- The action of a parser, down to a given depth. -/
def runWithin (environment : Environment) : Nat → Parser → Action
  | 0, _ => Action.raise .unbounded
  | _ + 1, literal text _ => Action.literal text
  | _ + 1, pattern described label => Action.pattern described label
  | _ + 1, endOfInput => Action.endOfInput
  | _ + 1, primitive answer => Action.ofFunction answer
  | depth + 1, anyOf alternatives =>
      Action.anyOf (alternatives.map (runWithin environment depth))
  | depth + 1, optional body => Action.optional (runWithin environment depth body)
  | depth + 1, many body => Action.many (runWithin environment depth body)
  | depth + 1, sequence steps => Action.sequence (steps.map (runWithin environment depth))
  | depth + 1, transform function body =>
      Action.transform function (runWithin environment depth body)
  | depth + 1, traced name body =>
      if environment.tracing then Action.traced name (runWithin environment depth body)
      else runWithin environment depth body
  | depth + 1, observed tag body => Action.observed tag (runWithin environment depth body)
  | depth + 1, deferred cell tag references product =>
      Action.deferred cell tag references
        (match product with
          | .error fault => .error fault
          | .ok body => .ok (runWithin environment depth body))
  | depth + 1, rule name =>
      match environment.rules.lookup name with
      | none => Action.raise (.undefinedRule (.reference name environment.grammar))
      | some body => runWithin environment depth body

/--
The depth that a run may need: at each offset no rule is entered twice before text is taken, so that
the steps taken there are no more than the nodes of the grammar.
-/
def sufficientDepth (environment : Environment) (parser : Parser) (cursor : Cursor) : Nat :=
  (cursor.remaining + 1) * (environment.weight + parser.weight + 1)

/-- The action of a parser. -/
def run (environment : Environment) (parser : Parser) : Action := fun cursor session =>
  runWithin environment (sufficientDepth environment parser cursor) parser cursor session

/-- The outcome of a parser in a fresh session. -/
def outcomeAt (environment : Environment) (parser : Parser) (cursor : Cursor) :
    Except Fault Outcome :=
  (run environment parser cursor .fresh).1

end Parser

end Descent
