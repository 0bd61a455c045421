import Descent.Parser.Run

/-!
# Histories of runs

The history of a run lists what it does, one moment after another: which rules it enters and leaves,
what primitives take, and where they fail.  A history is read off the run itself: the runs of the
parts decide which part comes next.
-/

namespace Descent

/-- One thing that a run does. -/
inductive Moment where
  /-- The run of a rule begins at an offset. -/
  | entered (rule : String) (offset : Nat)
  /-- The run of the rule entered last ends. -/
  | left (rule : String)
  /-- A primitive takes the text between two offsets. -/
  | took (reader : Parser) (start stop : Nat)
  /-- A primitive, or a choice without alternatives, fails. -/
  | failed (reader : Parser) (failure : Failure)

/-- An action together with the history of its runs. -/
structure Watched where
  action : Action
  history : Cursor → Session → List Moment

namespace Watched

/-- The one moment of a primitive; a fault leaves no trace. -/
def primitive (reader : Parser) (action : Action) (cursor : Cursor) (session : Session) :
    List Moment :=
  match (action cursor session).1 with
  | .ok (.matched _ next) => [.took reader cursor.offset next.offset]
  | .ok (.failed failure) => [.failed reader failure]
  | .error _ => []

/-- The alternatives of a choice, up to the first that does not fail. -/
def choice : List Watched → Cursor → Session → List Moment
  | [], _, _ => []
  | alternative :: alternatives, cursor, session =>
      alternative.history cursor session ++
        match alternative.action cursor session with
        | (.ok (.failed _), after) => choice alternatives cursor after
        | _ => []

/-- At most `bound` attempts of a repetition. -/
def repetition (body : Watched) : Nat → Cursor → Session → List Moment
  | 0, _, _ => []
  | bound + 1, cursor, session =>
      body.history cursor session ++
        match body.action cursor session with
        | (.ok (.matched _ next), after) =>
            if next.offset = cursor.offset then [] else repetition body bound next after
        | _ => []

/-- The steps of a concatenation, up to the first that does not match. -/
def steps : List Watched → Cursor → Session → List Moment
  | [], _, _ => []
  | step :: others, cursor, session =>
      step.history cursor session ++
        match step.action cursor session with
        | (.ok (.matched _ next), after) => steps others next after
        | _ => []

end Watched

namespace Parser

/-- The history of a parser, down to a given depth. -/
def historyWithin (environment : Environment) : Nat → Parser → Cursor → Session → List Moment
  | 0, _ => fun _ _ => []
  | _ + 1, literal text nonempty =>
      Watched.primitive (literal text nonempty) (Action.literal text)
  | _ + 1, pattern described label =>
      Watched.primitive (pattern described label) (Action.pattern described label)
  | _ + 1, endOfInput => Watched.primitive endOfInput Action.endOfInput
  | _ + 1, primitive answer => Watched.primitive (primitive answer) (Action.ofFunction answer)
  | _ + 1, anyOf [] => Watched.primitive (anyOf []) (Action.anyOf [])
  | depth + 1, anyOf (first :: others) =>
      Watched.choice
        ((first :: others).map fun alternative =>
          ⟨runWithin environment depth alternative, historyWithin environment depth alternative⟩)
  | depth + 1, optional body => historyWithin environment depth body
  | depth + 1, many body => fun cursor session =>
      Watched.repetition
        ⟨runWithin environment depth body, historyWithin environment depth body⟩
        (cursor.remaining + 1) cursor session
  | depth + 1, sequence steps =>
      Watched.steps
        (steps.map fun step =>
          ⟨runWithin environment depth step, historyWithin environment depth step⟩)
  | depth + 1, transform _ body => historyWithin environment depth body
  | depth + 1, traced name body => fun cursor session =>
      historyWithin environment depth body cursor
        (if environment.tracing then session.note (.trying name cursor.offset) else session)
  | depth + 1, observed tag body => fun cursor session =>
      historyWithin environment depth body cursor (session.report (.reached tag cursor.offset))
  | depth + 1, deferred cell tag references product => fun cursor session =>
      match product with
      | .error _ => []
      | .ok body =>
          historyWithin environment depth body cursor
            (if session.built.contains cell then session
            else ((session.report (.building tag)).mentionAll references).markBuilt cell)
  | depth + 1, rule name => fun cursor session =>
      match environment.rules.lookup name with
      | none => []
      | some body =>
          .entered name cursor.offset ::
            (historyWithin environment depth body cursor session ++ [.left name])

/-- The history of a parser in a fresh session. -/
def historyAt (environment : Environment) (parser : Parser) (cursor : Cursor) : List Moment :=
  historyWithin environment (sufficientDepth environment parser cursor) parser cursor .fresh

end Parser

end Descent
