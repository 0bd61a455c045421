import Descent.Proofs.Parser.History

/-!
# Settled runs

A run is settled when, from some depth on and in every session, it has one outcome and one history
and leaves the session as it was.  Settled runs are put together combinator by combinator, each of
which adds one level of depth.
-/

namespace Descent

namespace Cursor

theorem forward_zero (cursor : Cursor) : cursor.forward 0 = cursor := by
  apply ext
  · rfl
  · have := cursor.offset_le
    rw [offset_forward]
    omega

theorem forward_forward (cursor : Cursor) (first second : Nat) :
    (cursor.forward first).forward second = cursor.forward (first + second) := by
  apply ext
  · rfl
  · simp only [offset_forward, source_forward]
    omega

theorem rest_forward_of_eq_append {cursor : Cursor} {taken rest : List Char}
    (text : cursor.rest = taken ++ rest) : (cursor.forward taken.length).rest = rest := by
  rw [rest_forward, text, List.drop_left]

theorem offset_forward_of_eq_append {cursor : Cursor} {taken rest : List Char}
    (text : cursor.rest = taken ++ rest) :
    (cursor.forward taken.length).offset = cursor.offset + taken.length := by
  have lengths := cursor.length_rest
  have := cursor.offset_le
  rw [text, List.length_append, remaining] at lengths
  rw [offset_forward]
  omega

theorem remaining_forward (cursor : Cursor) (count : Nat) :
    (cursor.forward count).remaining = cursor.remaining - count := by
  have := cursor.offset_le
  simp only [remaining, offset_forward, source_forward]
  omega

end Cursor

namespace Outcome

/-- The outcome with its value changed. -/
@[simp]
def map (function : Value → Value) : Outcome → Outcome
  | matched value cursor => matched (function value) cursor
  | failed failure => failed failure

/-- The outcome, or nothing taken at a position where it is a failure. -/
@[simp]
def orNothing (start : Cursor) : Outcome → Outcome
  | matched value cursor => matched value cursor
  | failed _ => matched .null start

end Outcome

namespace Parser

/-- Where some steps of a concatenation get to. -/
inductive Progress where
  /-- All steps matched, with these values, and the text after them is left. -/
  | passed (values : List Value) (next : Cursor)
  /-- A step failed. -/
  | stopped (failure : Failure)

/-- The outcome of a concatenation after the values of earlier steps. -/
def Progress.outcome (earlier : List Value) : Progress → Outcome
  | passed values next => .matched (.tuple (earlier ++ values)) next
  | stopped failure => .failed failure

/-- Progress with the value of one more step before it. -/
def Progress.after (value : Value) : Progress → Progress
  | passed values next => passed (value :: values) next
  | stopped failure => stopped failure

theorem Progress.outcome_after (earlier : List Value) (value : Value) (progress : Progress) :
    (progress.after value).outcome earlier = progress.outcome (earlier ++ [value]) := by
  cases progress with
  | passed values next => simp [after, outcome]
  | stopped failure => rfl

variable {environment : Environment} {depth : Nat} {cursor next last : Cursor}
  {moments further : List Moment} {outcome : Outcome} {failure : Failure} {value : Value}

/-- A parser has one outcome and one history from a depth on, and leaves every session as it was. -/
def Settled (environment : Environment) (depth : Nat) (parser : Parser) (cursor : Cursor)
    (outcome : Outcome) (moments : List Moment) : Prop :=
  ∀ bound, depth ≤ bound → ∀ session,
    runWithin environment bound parser cursor session = (.ok outcome, session) ∧
      historyWithin environment bound parser cursor session = moments

/-- The runs of a parser down to a given depth, with their histories. -/
def watched (environment : Environment) (depth : Nat) (parser : Parser) : Watched :=
  ⟨runWithin environment depth parser, historyWithin environment depth parser⟩

@[simp]
theorem action_watched (environment : Environment) (depth : Nat) (parser : Parser) :
    (watched environment depth parser).action = runWithin environment depth parser := rfl

@[simp]
theorem history_watched (environment : Environment) (depth : Nat) (parser : Parser) :
    (watched environment depth parser).history = historyWithin environment depth parser := rfl

theorem Settled.mono {parser : Parser} {deeper : Nat}
    (settled : Settled environment depth parser cursor outcome moments) (le : depth ≤ deeper) :
    Settled environment deeper parser cursor outcome moments :=
  fun bound enough => settled bound (Nat.le_trans le enough)

/-- A settled run within the depth that runs are given is the outcome at the position. -/
theorem Settled.outcomeAt {parser : Parser}
    (settled : Settled environment depth parser cursor outcome moments)
    (le : depth ≤ sufficientDepth environment parser cursor) :
    parser.outcomeAt environment cursor = .ok outcome := by
  rw [Parser.outcomeAt, run, (settled _ le .fresh).1]

theorem Settled.historyAt {parser : Parser}
    (settled : Settled environment depth parser cursor outcome moments)
    (le : depth ≤ sufficientDepth environment parser cursor) :
    parser.historyAt environment cursor = moments :=
  (settled _ le .fresh).2

/-- A parser settles on one history at a position. -/
theorem Settled.unique {parser : Parser} {deeper : Nat} {other : Outcome}
    (settled : Settled environment depth parser cursor outcome moments)
    (second : Settled environment deeper parser cursor other further) : moments = further := by
  have told := (settled (max depth deeper) (Nat.le_max_left _ _) .fresh).2
  rw [← told, (second (max depth deeper) (Nat.le_max_right _ _) .fresh).2]

/-- It is enough to look at runs that have a level to spare. -/
theorem settled_succ {parser : Parser}
    (answers : ∀ bound, depth ≤ bound → ∀ session,
      runWithin environment (bound + 1) parser cursor session = (.ok outcome, session) ∧
        historyWithin environment (bound + 1) parser cursor session = moments) :
    Settled environment (depth + 1) parser cursor outcome moments := by
  intro bound enough session
  obtain ⟨bound, rfl⟩ := Nat.exists_eq_add_of_le' (Nat.le_trans (Nat.le_add_left 1 depth) enough)
  exact answers bound (Nat.le_of_add_le_add_right enough) session

/-! ## Primitives -/

theorem settled_literal_took {text : String} {nonempty : text ≠ ""}
    (starts : cursor.startsWith text.toList = true) :
    Settled environment 1 (.literal text nonempty) cursor
      (.matched (.text text) (cursor.forward text.toList.length))
      [.took (.literal text nonempty) cursor.offset
        (cursor.forward text.toList.length).offset] := by
  apply settled_succ
  intro bound _ session
  simp [runWithin, historyWithin, Watched.primitive, Action.literal, starts]

theorem settled_literal_failed {text : String} {nonempty : text ≠ ""}
    (refused : cursor.startsWith text.toList = false) :
    Settled environment 1 (.literal text nonempty) cursor (.failed ⟨text, cursor⟩)
      [.failed (.literal text nonempty) ⟨text, cursor⟩] := by
  apply settled_succ
  intro bound _ session
  simp [runWithin, historyWithin, Watched.primitive, Action.literal, refused]

theorem settled_pattern_took {described : Pattern} {label : String} {taken rest : List Char}
    (text_eq : cursor.rest = taken ++ rest)
    (took : described.matchEnd? cursor.offset cursor.rest = some (cursor.offset + taken.length)) :
    Settled environment 1 (.pattern described label) cursor
      (.matched (.text (String.ofList taken)) (cursor.forward taken.length))
      [.took (.pattern described label) cursor.offset (cursor.forward taken.length).offset] := by
  have front : cursor.rest.take taken.length = taken := by rw [text_eq, List.take_left]
  apply settled_succ
  intro bound _ session
  simp [runWithin, historyWithin, Watched.primitive, Action.pattern, took, front]

theorem settled_pattern_failed {described : Pattern} {label : String}
    (refused : described.matchEnd? cursor.offset cursor.rest = none) :
    Settled environment 1 (.pattern described label) cursor (.failed ⟨label, cursor⟩)
      [.failed (.pattern described label) ⟨label, cursor⟩] := by
  apply settled_succ
  intro bound _ session
  simp [runWithin, historyWithin, Watched.primitive, Action.pattern, refused]

theorem settled_endOfInput_took (atEnd : cursor.isAtEnd = true) :
    Settled environment 1 .endOfInput cursor (.matched .null cursor)
      [.took .endOfInput cursor.offset cursor.offset] := by
  apply settled_succ
  intro bound _ session
  simp [runWithin, historyWithin, Watched.primitive, Action.endOfInput, atEnd]

theorem settled_endOfInput_failed (inside : cursor.isAtEnd = false) :
    Settled environment 1 .endOfInput cursor (.failed ⟨endOfInputLabel, cursor⟩)
      [.failed .endOfInput ⟨endOfInputLabel, cursor⟩] := by
  apply settled_succ
  intro bound _ session
  simp [runWithin, historyWithin, Watched.primitive, Action.endOfInput, inside]

/-! ## Combinators with one body -/

theorem Settled.rule {name : String} {body : Parser}
    (found : environment.rules.lookup name = some body)
    (settled : Settled environment depth body cursor outcome moments) :
    Settled environment (depth + 1) (.rule name) cursor outcome
      (.entered name cursor.offset :: (moments ++ [.left name])) := by
  apply settled_succ
  intro bound enough session
  obtain ⟨ran, told⟩ := settled bound enough session
  simp [runWithin, historyWithin, found, ran, told]

theorem Settled.transform {body : Parser} (function : Value → Value)
    (settled : Settled environment depth body cursor outcome moments) :
    Settled environment (depth + 1) (.transform function body) cursor (outcome.map function)
      moments := by
  apply settled_succ
  intro bound enough session
  obtain ⟨ran, told⟩ := settled bound enough session
  cases outcome <;> simp [runWithin, historyWithin, Action.transform, ran, told]

theorem Settled.optional {body : Parser}
    (settled : Settled environment depth body cursor outcome moments) :
    Settled environment (depth + 1) (.optional body) cursor (outcome.orNothing cursor)
      moments := by
  apply settled_succ
  intro bound enough session
  obtain ⟨ran, told⟩ := settled bound enough session
  cases outcome <;> simp [runWithin, historyWithin, Action.optional, ran, told]

/-! ## Choice -/

/-- The alternatives of a choice after some failures, as `Settled` has it for one parser. -/
def ChoiceSettled (environment : Environment) (depth : Nat) (earlier : Option Failure)
    (alternatives : List Parser) (cursor : Cursor) (outcome : Outcome) (moments : List Moment) :
    Prop :=
  ∀ bound, depth ≤ bound → ∀ session,
    Action.anyOfFrom earlier (alternatives.map (runWithin environment bound)) cursor session =
        (.ok outcome, session) ∧
      Watched.choice (alternatives.map (watched environment bound)) cursor session = moments

theorem choiceSettled_nil (environment : Environment) (depth : Nat) (failure : Failure)
    (cursor : Cursor) :
    ChoiceSettled environment depth (some failure) [] cursor (.failed failure) [] :=
  fun _ _ _ => ⟨rfl, rfl⟩

theorem Settled.choice_matched {earlier : Option Failure} {alternative : Parser}
    (settled : Settled environment depth alternative cursor (.matched value next) moments)
    (alternatives : List Parser) :
    ChoiceSettled environment depth earlier (alternative :: alternatives) cursor
      (.matched value next) moments := by
  intro bound enough session
  obtain ⟨ran, told⟩ := settled bound enough session
  simp [Action.anyOfFrom, Watched.choice, ran, told]

theorem Settled.choice_failed {earlier : Option Failure} {alternative : Parser}
    {alternatives : List Parser}
    (settled : Settled environment depth alternative cursor (.failed failure) moments)
    (others : ChoiceSettled environment depth (some (Action.furthest earlier failure)) alternatives
      cursor outcome further) :
    ChoiceSettled environment depth earlier (alternative :: alternatives) cursor outcome
      (moments ++ further) := by
  intro bound enough session
  obtain ⟨ran, told⟩ := settled bound enough session
  obtain ⟨othersRan, othersTold⟩ := others bound enough session
  simp [Action.anyOfFrom, Watched.choice, ran, told, othersRan, othersTold]

theorem ChoiceSettled.anyOf {alternative : Parser} {alternatives : List Parser}
    (settled : ChoiceSettled environment depth none (alternative :: alternatives) cursor outcome
      moments) :
    Settled environment (depth + 1) (.anyOf (alternative :: alternatives)) cursor outcome
      moments :=
  settled_succ settled

/-! ## Concatenation -/

/-- The steps of a concatenation, as `Settled` has it for one parser. -/
def StepsSettled (environment : Environment) (depth : Nat) (steps : List Parser)
    (cursor : Cursor) (progress : Progress) (moments : List Moment) : Prop :=
  ∀ bound, depth ≤ bound → ∀ earlier session,
    Action.sequenceFrom earlier (steps.map (runWithin environment bound)) cursor session =
        (.ok (progress.outcome earlier.reverse), session) ∧
      Watched.steps (steps.map (watched environment bound)) cursor session = moments

theorem stepsSettled_nil (environment : Environment) (depth : Nat) (cursor : Cursor) :
    StepsSettled environment depth [] cursor (.passed [] cursor) [] := by
  intro bound _ earlier session
  simp [Action.sequenceFrom, Watched.steps, Progress.outcome]

theorem Settled.steps_matched {step : Parser} {steps : List Parser} {progress : Progress}
    (settled : Settled environment depth step cursor (.matched value next) moments)
    (others : StepsSettled environment depth steps next progress further) :
    StepsSettled environment depth (step :: steps) cursor (progress.after value)
      (moments ++ further) := by
  intro bound enough earlier session
  obtain ⟨ran, told⟩ := settled bound enough session
  obtain ⟨othersRan, othersTold⟩ := others bound enough (value :: earlier) session
  simp [Action.sequenceFrom, Watched.steps, ran, told, othersRan, othersTold,
    Progress.outcome_after]

theorem Settled.steps_failed {step : Parser}
    (settled : Settled environment depth step cursor (.failed failure) moments)
    (steps : List Parser) :
    StepsSettled environment depth (step :: steps) cursor (.stopped failure) moments := by
  intro bound enough earlier session
  obtain ⟨ran, told⟩ := settled bound enough session
  simp [Action.sequenceFrom, Watched.steps, ran, told, Progress.outcome]

theorem StepsSettled.sequence {steps : List Parser} {progress : Progress}
    (settled : StepsSettled environment depth steps cursor progress moments) :
    Settled environment (depth + 1) (.sequence steps) cursor (progress.outcome []) moments :=
  settled_succ fun bound enough session => settled bound enough [] session

/-! ## Repetition -/

/-- A repetition with more attempts than characters left, as `Settled` has it for one parser. -/
def RepetitionSettled (environment : Environment) (depth : Nat) (body : Parser)
    (cursor : Cursor) (values : List Value) (next : Cursor) (moments : List Moment) : Prop :=
  ∀ bound, depth ≤ bound → ∀ attempts, cursor.remaining < attempts → ∀ earlier session,
    Action.manyFrom (runWithin environment bound body) attempts earlier cursor session =
        (.ok (.matched (.tuple (earlier.reverse ++ values)) next), session) ∧
      Watched.repetition (watched environment bound body) attempts cursor session = moments

theorem Settled.repetition_stop {body : Parser}
    (settled : Settled environment depth body cursor (.failed failure) moments) :
    RepetitionSettled environment depth body cursor [] cursor moments := by
  intro bound enough attempts room earlier session
  obtain ⟨attempts, rfl⟩ := Nat.exists_eq_add_of_le' (Nat.lt_of_le_of_lt (Nat.zero_le _) room)
  obtain ⟨ran, told⟩ := settled bound enough session
  simp [Action.manyFrom, Watched.repetition, ran, told]

theorem Settled.repetition_again {body : Parser} {values : List Value}
    (settled : Settled environment depth body cursor (.matched value next) moments)
    (progress : cursor.offset < next.offset) (shorter : next.remaining < cursor.remaining)
    (others : RepetitionSettled environment depth body next values last further) :
    RepetitionSettled environment depth body cursor (value :: values) last
      (moments ++ further) := by
  intro bound enough attempts room earlier session
  obtain ⟨attempts, rfl⟩ := Nat.exists_eq_add_of_le' (Nat.lt_of_le_of_lt (Nat.zero_le _) room)
  obtain ⟨ran, told⟩ := settled bound enough session
  obtain ⟨othersRan, othersTold⟩ :=
    others bound enough attempts (by omega) (value :: earlier) session
  have moved : next.offset ≠ cursor.offset := by omega
  simp [Action.manyFrom, Watched.repetition, ran, told, othersRan, othersTold, moved]

theorem RepetitionSettled.mono {body : Parser} {values : List Value} {deeper : Nat}
    (settled : RepetitionSettled environment depth body cursor values next moments)
    (le : depth ≤ deeper) :
    RepetitionSettled environment deeper body cursor values next moments :=
  fun bound enough => settled bound (Nat.le_trans le enough)

theorem RepetitionSettled.unique {body : Parser} {values otherValues : List Value} {deeper : Nat}
    (settled : RepetitionSettled environment depth body cursor values next moments)
    (second : RepetitionSettled environment deeper body cursor otherValues last further) :
    moments = further := by
  have told := (settled (max depth deeper) (Nat.le_max_left _ _) (cursor.remaining + 1)
    (Nat.lt_succ_self _) [] .fresh).2
  rw [← told, (second (max depth deeper) (Nat.le_max_right _ _) (cursor.remaining + 1)
    (Nat.lt_succ_self _) [] .fresh).2]

theorem RepetitionSettled.many {body : Parser} {values : List Value}
    (settled : RepetitionSettled environment depth body cursor values next moments) :
    Settled environment (depth + 1) (.many body) cursor (.matched (.tuple values) next)
      moments :=
  settled_succ fun bound enough session =>
    settled bound enough (cursor.remaining + 1) (Nat.lt_succ_self _) [] session

end Parser

end Descent
