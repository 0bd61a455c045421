import Descent.Log
import Descent.Parser

/-!
# Actions

An action reads at a position during a session, and gives an outcome or a fault together with the
session that it leaves behind.  Here are the actions of the primitives and the combinators on
actions; none of them looks at a parser term.

A combinator passes on the failures it observes and makes none of its own, but for a choice without
alternatives.  When all alternatives of a choice fail, the failure that got furthest is kept, and of
equally far ones the first.
-/

namespace Descent

/-- What an observer is told about a run. -/
inductive Event where
  /-- The construction of a deferred parser was started. -/
  | building (tag : String)
  /-- An observed parser was started at an offset. -/
  | reached (tag : String) (offset : Nat)
  deriving DecidableEq, Repr

/-- What lasts from one run to the next. -/
structure Session where
  /-- Number of the next cell for a deferred parser. -/
  cells : Nat
  /-- Cells of the deferred parsers that are built. -/
  built : List Nat
  /-- Rules mentioned so far, each once, the first one first. -/
  referenced : List String
  /-- Events so far, the latest first. -/
  events : List Event
  /-- Log entries so far, the latest first. -/
  log : List Entry

namespace Session

/-- The session before any run. -/
def fresh : Session := ⟨0, [], [], [], []⟩

/-- The session after one more event. -/
def report (session : Session) (event : Event) : Session :=
  { session with events := event :: session.events }

/-- The session after one more log entry. -/
def note (session : Session) (entry : Entry) : Session :=
  { session with log := entry :: session.log }

/-- The session after one more mention of a rule. -/
def mention (session : Session) (name : String) : Session :=
  if session.referenced.contains name then session
  else { session with referenced := session.referenced ++ [name] }

/-- The session after mentions of some rules. -/
def mentionAll (session : Session) (names : List String) : Session :=
  names.foldl mention session

/-- The session after the construction of a deferred parser. -/
def markBuilt (session : Session) (cell : Nat) : Session :=
  { session with built := cell :: session.built }

end Session

/-- Reading at a position during a session. -/
abbrev Action := Cursor → Session → Except Fault Outcome × Session

namespace Action

/-- The action of a function of the position. -/
def ofFunction (answer : Cursor → Except Fault Outcome) : Action :=
  fun cursor session => (answer cursor, session)

/-- The action that ends with a fault. -/
def raise (fault : Fault) : Action := fun _ session => (.error fault, session)

/-- Read a given text. -/
def literal (text : String) : Action := fun cursor session =>
  let characters := text.toList
  if cursor.startsWith characters then
    (.ok (.matched (.text text) (cursor.forward characters.length)), session)
  else (.ok (.failed ⟨text, cursor⟩), session)

/-- Read the text that a pattern takes. -/
def pattern (described : Pattern) (label : String) : Action := fun cursor session =>
  match described.matchEnd? cursor.offset cursor.rest with
  | none => (.ok (.failed ⟨label, cursor⟩), session)
  | some stop =>
      let count := stop - cursor.offset
      let taken := String.ofList (cursor.rest.take count)
      (.ok (.matched (.text taken) (cursor.forward count)), session)

/-- Read nothing, at the end of the text only. -/
def endOfInput : Action := fun cursor session =>
  if cursor.isAtEnd then (.ok (.matched .null cursor), session)
  else (.ok (.failed ⟨endOfInputLabel, cursor⟩), session)

/-- The failure that got further; an earlier one wins a tie. -/
def furthest (earlier : Option Failure) (failure : Failure) : Failure :=
  match earlier with
  | none => failure
  | some first => if first.offset < failure.offset then failure else first

/-- Ordered choice, after alternatives that failed. -/
def anyOfFrom (earlier : Option Failure) : List Action → Action
  | [] => fun cursor session =>
      (.ok (.failed (earlier.getD ⟨noAlternativeLabel, cursor⟩)), session)
  | alternative :: alternatives => fun cursor session =>
      match alternative cursor session with
      | (.error fault, after) => (.error fault, after)
      | (.ok (.matched value next), after) => (.ok (.matched value next), after)
      | (.ok (.failed failure), after) =>
          anyOfFrom (some (furthest earlier failure)) alternatives cursor after

/-- Ordered choice. -/
def anyOf (alternatives : List Action) : Action := anyOfFrom none alternatives

/-- The body or, if it fails, nothing. -/
def optional (body : Action) : Action := fun cursor session =>
  match body cursor session with
  | (.error fault, after) => (.error fault, after)
  | (.ok (.matched value next), after) => (.ok (.matched value next), after)
  | (.ok (.failed _), after) => (.ok (.matched .null cursor), after)

/--
Repetition after some values, the latest first, with at most `bound` attempts.  It ends at a failure
or at a match that took no text, whose value is kept.
-/
def manyFrom (body : Action) : Nat → List Value → Action
  | 0, _ => raise .unbounded
  | bound + 1, values => fun cursor session =>
      match body cursor session with
      | (.error fault, after) => (.error fault, after)
      | (.ok (.failed _), after) => (.ok (.matched (.tuple values.reverse) cursor), after)
      | (.ok (.matched value next), after) =>
          if next.offset = cursor.offset then
            (.ok (.matched (.tuple (value :: values).reverse) cursor), after)
          else manyFrom body bound (value :: values) next after

/-- Repetition; each attempt but the last takes text, which bounds their number. -/
def many (body : Action) : Action := fun cursor session =>
  manyFrom body (cursor.remaining + 1) [] cursor session

/-- Concatenation after some values, the latest first. -/
def sequenceFrom (values : List Value) : List Action → Action
  | [] => fun cursor session => (.ok (.matched (.tuple values.reverse) cursor), session)
  | step :: steps => fun cursor session =>
      match step cursor session with
      | (.error fault, after) => (.error fault, after)
      | (.ok (.failed failure), after) => (.ok (.failed failure), after)
      | (.ok (.matched value next), after) => sequenceFrom (value :: values) steps next after

/-- Concatenation. -/
def sequence (steps : List Action) : Action := sequenceFrom [] steps

/-- The body with its value changed. -/
def transform (function : Value → Value) (body : Action) : Action := fun cursor session =>
  match body cursor session with
  | (.error fault, after) => (.error fault, after)
  | (.ok (.failed failure), after) => (.ok (.failed failure), after)
  | (.ok (.matched value next), after) => (.ok (.matched (function value) next), after)

/-- The log entry that closes a traced attempt. -/
def closing (name : String) (start : Nat) : Outcome → Entry
  | .matched _ next => .matched name start next.offset
  | .failed failure => .failed name failure.offset failure.expected

/-- The body, with a log entry before it and, unless it ends with a fault, one after it. -/
def traced (name : String) (body : Action) : Action := fun cursor session =>
  match body cursor (session.note (.trying name cursor.offset)) with
  | (.error fault, after) => (.error fault, after)
  | (.ok outcome, after) => (.ok outcome, after.note (closing name cursor.offset outcome))

/-- The body, with an event before it. -/
def observed (tag : String) (body : Action) : Action := fun cursor session =>
  body cursor (session.report (.reached tag cursor.offset))

/--
A parser built on first use.  Each attempt to build it is reported; a construction that ends with a
fault leaves the cell open, so that the next use tries again.
-/
def deferred (cell : Nat) (tag : String) (references : List String)
    (product : Except Fault Action) : Action := fun cursor session =>
  if session.built.contains cell then
    match product with
    | .error fault => (.error fault, session)
    | .ok body => body cursor session
  else
    let started := (session.report (.building tag)).mentionAll references
    match product with
    | .error fault => (.error fault, started)
    | .ok body => body cursor (started.markBuilt cell)

end Action

end Descent
