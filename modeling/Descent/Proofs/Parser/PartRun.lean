import Descent.Proofs.Parser.Mirror

/-!
# Runs of parts

The run of a parser consists of runs of its parts, one after another, each in the session that the
one before it left behind.  What is told of runs by records, and can be put together for runs that
follow each other, is told of the whole run by the records of the runs of its parts, one list behind
the other.
-/

namespace Descent

/-- The start of a run. -/
structure Beginning where
  parser : Parser
  cursor : Cursor
  session : Session

namespace Beginning

/-- The alternatives of a choice that are run. -/
def choice (run : Parser → Action) : List Parser → Cursor → Session → List Beginning
  | [], _, _ => []
  | alternative :: alternatives, cursor, session =>
      ⟨alternative, cursor, session⟩ ::
        match run alternative cursor session with
        | (.ok (.failed _), after) => choice run alternatives cursor after
        | _ => []

/-- The steps of a concatenation that are run. -/
def steps (run : Parser → Action) : List Parser → Cursor → Session → List Beginning
  | [], _, _ => []
  | step :: others, cursor, session =>
      ⟨step, cursor, session⟩ ::
        match run step cursor session with
        | (.ok (.matched _ next), after) => steps run others next after
        | _ => []

/-- At most `bound` attempts of a repetition. -/
def attempts (run : Parser → Action) (body : Parser) : Nat → Cursor → Session → List Beginning
  | 0, _, _ => []
  | bound + 1, cursor, session =>
      ⟨body, cursor, session⟩ ::
        match run body cursor session with
        | (.ok (.matched _ next), after) =>
            if next.offset = cursor.offset then [] else attempts run body bound next after
        | _ => []

end Beginning

namespace Parser

/-- The runs of its parts that the run of a parser consists of, in order. -/
def partRuns (environment : Environment) (depth : Nat) (parser : Parser) (cursor : Cursor)
    (session : Session) : List Beginning :=
  match parser with
  | literal _ _ | pattern _ _ | endOfInput | primitive _ => []
  | anyOf alternatives =>
      Beginning.choice (runWithin environment depth) alternatives cursor session
  | many body =>
      Beginning.attempts (runWithin environment depth) body (cursor.remaining + 1) cursor session
  | sequence parts => Beginning.steps (runWithin environment depth) parts cursor session
  | optional body | transform _ body => [⟨body, cursor, session⟩]
  | traced name body =>
      [⟨body, cursor,
        if environment.tracing then session.note (.trying name cursor.offset) else session⟩]
  | observed tag body => [⟨body, cursor, session.report (.reached tag cursor.offset)⟩]
  | deferred cell tag references (.ok body) =>
      [⟨body, cursor, session.opened cell tag references⟩]
  | deferred _ _ _ (.error _) => []
  | rule name =>
      match environment.rules.lookup name with
      | none => []
      | some body => [⟨body, cursor, session⟩]

end Parser

/-! ## Records of runs -/

/--
Records that tell of a run, from the session in which it starts: an answer alone needs none, and a
run that returned, with another one after it, has the records of both.
-/
structure Composes {α : Type}
    (told : Session → List α → Except Fault Outcome × Session → Prop) : Prop where
  answer (session : Session) (answer : Except Fault Outcome) : told session [] (answer, session)
  /-- How a run returned is of no account. -/
  ok {session after : Session} {records : List α} {outcome : Outcome}
    (returned : told session records (.ok outcome, after)) (other : Outcome) :
    told session records (.ok other, after)
  append {session after : Session} {first second : List α} {outcome : Outcome}
    {ran : Except Fault Outcome × Session} (returned : told session first (.ok outcome, after))
    (further : told after second ran) : told session (first ++ second) ran

/-- The records that are told by the start of a run of a parser are those of the run. -/
def Tells {α : Type} (told : Session → List α → Except Fault Outcome × Session → Prop)
    (run : Parser → Action) (tell : Beginning → List α) (parser : Parser) : Prop :=
  ∀ cursor session, told session (tell ⟨parser, cursor, session⟩) (run parser cursor session)

namespace Composes

variable {α : Type} {told : Session → List α → Except Fault Outcome × Session → Prop}
  {run : Parser → Action} {tell : Beginning → List α}

theorem choice (composes : Composes told) {alternatives : List Parser}
    (tells : ∀ parser ∈ alternatives, Tells told run tell parser) (earlier : Option Failure)
    (cursor : Cursor) (session : Session) :
    told session ((Beginning.choice run alternatives cursor session).flatMap tell)
      (Action.anyOfFrom earlier (alternatives.map run) cursor session) := by
  induction alternatives generalizing earlier session with
  | nil => exact composes.answer session _
  | cons alternative alternatives induction =>
      obtain ⟨head, tail⟩ := List.forall_mem_cons.mp tells
      have told := head cursor session
      simp only [Beginning.choice, List.flatMap_cons, List.map_cons, Action.anyOfFrom]
      generalize tell ⟨alternative, cursor, session⟩ = records,
        run alternative cursor session = ran at told ⊢
      rcases ran with ⟨fault | ⟨value, next⟩ | failure, after⟩
      · simpa using told
      · simpa using told
      · exact composes.append told (induction tail _ after)

theorem steps (composes : Composes told) {parts : List Parser}
    (tells : ∀ parser ∈ parts, Tells told run tell parser) (values : List Value) (cursor : Cursor)
    (session : Session) :
    told session ((Beginning.steps run parts cursor session).flatMap tell)
      (Action.sequenceFrom values (parts.map run) cursor session) := by
  induction parts generalizing values cursor session with
  | nil => exact composes.answer session _
  | cons part parts induction =>
      obtain ⟨head, tail⟩ := List.forall_mem_cons.mp tells
      have told := head cursor session
      simp only [Beginning.steps, List.flatMap_cons, List.map_cons, Action.sequenceFrom]
      generalize tell ⟨part, cursor, session⟩ = records, run part cursor session = ran at told ⊢
      rcases ran with ⟨fault | ⟨value, next⟩ | failure, after⟩
      · simpa using told
      · exact composes.append told (induction tail _ next after)
      · simpa using told

theorem attempts (composes : Composes told) {body : Parser} (tells : Tells told run tell body)
    (bound : Nat) (values : List Value) (cursor : Cursor) (session : Session) :
    told session ((Beginning.attempts run body bound cursor session).flatMap tell)
      (Action.manyFrom (run body) bound values cursor session) := by
  induction bound generalizing values cursor session with
  | zero => exact composes.answer session _
  | succ bound induction =>
      have told := tells cursor session
      simp only [Beginning.attempts, List.flatMap_cons, Action.manyFrom]
      generalize tell ⟨body, cursor, session⟩ = records, run body cursor session = ran at told ⊢
      rcases ran with ⟨fault | ⟨value, next⟩ | failure, after⟩
      · simpa using told
      · dsimp only
        split
        · simpa using composes.ok told _
        · exact composes.append told (induction _ next after)
      · simpa using composes.ok told _

/-- A run that changes nothing in the session but by the runs of its parts has their records. -/
theorem runWithin (composes : Composes told) {environment : Environment} {depth : Nat}
    (tells : ∀ part, Tells told (Parser.runWithin environment depth) tell part) (parser : Parser)
    (noTrace : ∀ name body, parser ≠ .traced name body)
    (noObservation : ∀ tag body, parser ≠ .observed tag body)
    (noDeferral : ∀ cell tag references product, parser ≠ .deferred cell tag references product)
    (cursor : Cursor) (session : Session) :
    told session ((Parser.partRuns environment depth parser cursor session).flatMap tell)
      (Parser.runWithin environment (depth + 1) parser cursor session) := by
  cases parser with
  | literal text =>
      simp only [Parser.runWithin, Action.literal]
      split <;> exact composes.answer session _
  | pattern described label =>
      simp only [Parser.runWithin, Action.pattern]
      split <;> exact composes.answer session _
  | endOfInput =>
      simp only [Parser.runWithin, Action.endOfInput]
      split <;> exact composes.answer session _
  | primitive answer => exact composes.answer session (answer cursor)
  | anyOf alternatives => exact composes.choice (fun part _ => tells part) none cursor session
  | sequence steps => exact composes.steps (fun part _ => tells part) [] cursor session
  | many body => exact composes.attempts (tells body) _ [] cursor session
  | optional body =>
      have inner := tells body cursor session
      simp only [Parser.partRuns, List.flatMap_cons, List.flatMap_nil, List.append_nil,
        Parser.runWithin, Action.optional]
      generalize Parser.runWithin environment depth body cursor session = ran at inner ⊢
      rcases ran with ⟨fault | ⟨value, next⟩ | failure, after⟩
      · exact inner
      · exact inner
      · exact composes.ok inner _
  | transform function body =>
      have inner := tells body cursor session
      simp only [Parser.partRuns, List.flatMap_cons, List.flatMap_nil, List.append_nil,
        Parser.runWithin, Action.transform]
      generalize Parser.runWithin environment depth body cursor session = ran at inner ⊢
      rcases ran with ⟨fault | ⟨value, next⟩ | failure, after⟩
      · exact inner
      · exact composes.ok inner _
      · exact inner
  | rule name =>
      simp only [Parser.partRuns, Parser.runWithin]
      cases environment.rules.lookup name with
      | none => exact composes.answer session _
      | some body =>
          simp only [List.flatMap_cons, List.flatMap_nil, List.append_nil]
          exact tells body cursor session
  | traced name body => exact absurd rfl (noTrace name body)
  | observed tag body => exact absurd rfl (noObservation tag body)
  | deferred cell tag references product =>
      exact absurd rfl (noDeferral cell tag references product)

end Composes

end Descent
