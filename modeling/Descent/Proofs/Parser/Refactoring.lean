import Descent.Proofs.Parser.Occurrence
import Descent.Proofs.Parser.SufficientDepth

/-!
# Refactorings of grammars

A choice between choices is one choice, and a concatenation of concatenations is one concatenation.
What two alternatives begin with may be taken out of them, a function of the value may be moved into
the alternatives, and an option is a choice with nothing as its last alternative.  Parsers that are
rewritten in one of these ways answer the same at every position: the value, the end of the match,
and the label and the place of a failure, wherever it lies.
-/

namespace Descent

namespace Value

/-- The items of a tuple. -/
def items : Value → List Value
  | tuple values => values
  | _ => []

/-- A tuple with more items in front. -/
def prepend (values : List Value) : Value → Value
  | tuple others => tuple (values ++ others)
  | other => other

/-- The pair of the tuple of the first items and the tuple of the others. -/
def splitAt (count : Nat) : Value → Value
  | tuple values => tuple [tuple (values.take count), tuple (values.drop count)]
  | other => other

theorem prepend_prepend (first second : List Value) (value : Value) :
    (value.prepend second).prepend first = value.prepend (first ++ second) := by
  cases value with
  | tuple => simp [prepend]
  | _ => rfl

end Value

namespace Action

variable {cursor next : Cursor} {session after : Session} {value : Value}

/-! ## Choice -/

/-- The first of the failures that got furthest does not depend on how they are grouped. -/
theorem furthest_furthest (earlier : Option Failure) (first second : Failure) :
    furthest (some (furthest earlier first)) second =
      furthest earlier (furthest (some first) second) := by
  cases earlier with
  | none => rfl
  | some earliest =>
      simp only [furthest]
      grind

/-- The end of a run, where a failure has to get further than an earlier one. -/
def surpassing (earlier : Option Failure) :
    Except Fault Outcome × Session → Except Fault Outcome × Session
  | (.ok (.failed failure), after) => (.ok (.failed (furthest earlier failure)), after)
  | ended => ended

/-- An earlier failure may be compared when the other alternatives have failed. -/
theorem anyOfFrom_furthest (earlier : Option Failure) (failure : Failure) (actions : List Action)
    (cursor : Cursor) (session : Session) :
    anyOfFrom (some (furthest earlier failure)) actions cursor session =
      surpassing earlier (anyOfFrom (some failure) actions cursor session) := by
  induction actions generalizing failure session with
  | nil => rfl
  | cons action actions induction =>
      simp only [anyOfFrom]
      rcases action cursor session with ⟨fault | ⟨value, next⟩ | second, after⟩
      · rfl
      · rfl
      · simp only [furthest_furthest, induction]

theorem anyOfFrom_of_ne_nil {actions : List Action} (nonempty : actions ≠ [])
    (earlier : Option Failure) (cursor : Cursor) (session : Session) :
    anyOfFrom earlier actions cursor session =
      surpassing earlier (anyOfFrom none actions cursor session) := by
  obtain ⟨action, actions, rfl⟩ := List.exists_cons_of_ne_nil nonempty
  simp only [anyOfFrom]
  rcases action cursor session with ⟨fault | ⟨value, next⟩ | failure, after⟩
  · rfl
  · rfl
  · exact anyOfFrom_furthest earlier failure actions cursor after

/-- The later alternatives are tried after the failure of the earlier ones. -/
theorem anyOfFrom_append {first : List Action} {earlier : Option Failure}
    (some_or_cons : earlier ≠ none ∨ first ≠ []) (second : List Action) (cursor : Cursor)
    (session : Session) :
    anyOfFrom earlier (first ++ second) cursor session =
      match anyOfFrom earlier first cursor session with
      | (.ok (.failed failure), after) => anyOfFrom (some failure) second cursor after
      | ended => ended := by
  induction first generalizing earlier session with
  | nil =>
      obtain ⟨failure, rfl⟩ := Option.ne_none_iff_exists'.mp (some_or_cons.resolve_right (· rfl))
      rfl
  | cons action actions induction =>
      simp only [List.cons_append, anyOfFrom]
      rcases action cursor session with ⟨fault | ⟨value, next⟩ | failure, after⟩
      · rfl
      · rfl
      · exact induction (.inl (Option.some_ne_none _)) after

/-- A choice between two choices is one choice, unless one of them is empty. -/
theorem anyOf_anyOf {first second : List Action} (consFirst : first ≠ [])
    (consSecond : second ≠ []) :
    anyOf [anyOf first, anyOf second] = anyOf (first ++ second) := by
  funext cursor session
  simp only [anyOf, anyOfFrom, anyOfFrom_append (.inr consFirst)]
  rcases anyOfFrom none first cursor session with ⟨fault | ⟨value, next⟩ | failure, after⟩
  · rfl
  · rfl
  · simp only [anyOfFrom_of_ne_nil consSecond (some failure)]
    rcases anyOfFrom none second cursor after with ⟨fault | ⟨value, next⟩ | other, last⟩ <;> rfl

/-- A function of the value may be moved into the alternatives. -/
theorem transform_anyOf (function : Value → Value) (actions : List Action) :
    transform function (anyOf actions) = anyOf (actions.map (transform function)) := by
  have moved (earlier : Option Failure) : transform function (anyOfFrom earlier actions) =
      anyOfFrom earlier (actions.map (transform function)) := by
    funext cursor session
    induction actions generalizing earlier session with
    | nil => rfl
    | cons action actions induction =>
        simp only [List.map_cons, anyOfFrom, transform] at induction ⊢
        rcases action cursor session with ⟨fault | ⟨value, next⟩ | failure, after⟩
        · rfl
        · rfl
        · exact induction _ _
  exact moved none

/-- The action that matches no text with a given value. -/
def succeed (value : Value) : Action := ofFunction fun cursor => .ok (.matched value cursor)

/-- An option is a choice whose last alternative is nothing. -/
theorem optional_eq_anyOf (action : Action) : optional action = anyOf [action, succeed .null] := by
  funext cursor session
  simp only [optional, anyOf, anyOfFrom]
  rcases action cursor session with ⟨fault | ⟨value, next⟩ | failure, after⟩ <;> rfl

/-! ## Concatenation -/

/-- The values of the steps stand in a tuple behind those of the earlier steps. -/
theorem exists_items_of_sequenceFrom {actions : List Action} {values : List Value}
    (ran : sequenceFrom values actions cursor session = (.ok (.matched value next), after)) :
    ∃ items, value = .tuple (values.reverse ++ items) ∧ items.length = actions.length := by
  induction actions generalizing values cursor session with
  | nil =>
      cases ran
      exact ⟨[], by rw [List.append_nil], rfl⟩
  | cons action actions induction =>
      simp only [sequenceFrom] at ran
      rcases tried : action cursor session with ⟨fault | ⟨first, reached⟩ | failure, later⟩ <;>
        rw [tried] at ran
      · cases ran
      · obtain ⟨items, value_eq, length_eq⟩ := induction ran
        refine ⟨first :: items, ?_, by rw [List.length_cons, List.length_cons, length_eq]⟩
        rw [value_eq, List.reverse_cons, List.append_assoc, List.singleton_append]
      · cases ran

/-- The values of earlier steps may be put in front when the steps have matched. -/
theorem sequenceFrom_eq (values : List Value) (actions : List Action) :
    sequenceFrom values actions =
      transform (Value.prepend values.reverse) (sequenceFrom [] actions) := by
  funext cursor session
  induction actions generalizing values cursor session with
  | nil => simp [sequenceFrom, transform, Value.prepend]
  | cons action actions induction =>
      simp only [sequenceFrom, transform]
      rcases action cursor session with ⟨fault | ⟨value, next⟩ | failure, after⟩
      · rfl
      · simp only [induction (value :: values), induction [value], transform]
        rcases sequenceFrom [] actions next after with ⟨fault | ⟨others, last⟩ | failure, final⟩
        · rfl
        · simp [Value.prepend_prepend]
        · rfl
      · rfl

/-- The later steps begin where the earlier ones end. -/
theorem sequenceFrom_append (values : List Value) (first second : List Action) (cursor : Cursor)
    (session : Session) :
    sequenceFrom values (first ++ second) cursor session =
      match sequenceFrom values first cursor session with
      | (.ok (.matched value next), after) => sequenceFrom value.items.reverse second next after
      | ended => ended := by
  induction first generalizing values cursor session with
  | nil => simp [sequenceFrom, Value.items]
  | cons action actions induction =>
      simp only [List.cons_append, sequenceFrom]
      rcases action cursor session with ⟨fault | ⟨value, next⟩ | failure, after⟩
      · rfl
      · exact induction _ next after
      · rfl

/-- A concatenation of two concatenations is one concatenation with its values grouped. -/
theorem sequence_sequence (first second : List Action) :
    sequence [sequence first, sequence second] =
      transform (Value.splitAt first.length) (sequence (first ++ second)) := by
  funext cursor session
  simp only [transform, sequence, sequenceFrom, sequenceFrom_append]
  rcases ranFirst : sequenceFrom [] first cursor session with
    ⟨fault | ⟨value, next⟩ | failure, after⟩
  · rfl
  · obtain ⟨items, rfl, length_eq⟩ := exists_items_of_sequenceFrom ranFirst
    simp only [sequenceFrom_eq (List.reverse _) second, transform]
    rcases ranSecond : sequenceFrom [] second next after with
      ⟨fault | ⟨other, last⟩ | failure, final⟩
    · rfl
    · obtain ⟨others, rfl, -⟩ := exists_items_of_sequenceFrom ranSecond
      simp [Value.items, Value.prepend, Value.splitAt, ← length_eq]
    · rfl
  · rfl

/-! ## Left factors -/

theorem IsSteady.exists_again {action : Action} (steady : action.IsSteady)
    {answer : Except Fault Outcome} (ran : action cursor session = (answer, after))
    (other : Session) : ∃ later, action cursor other = (answer, later) := by
  have same := steady cursor session other
  rw [ran] at same
  exact ⟨(action cursor other).2, Prod.ext same rfl⟩

/-- What two alternatives begin with may be read once. -/
theorem answer_anyOf_sequence {common second : Action} (steady : common.IsSteady)
    (steadySecond : second.IsSteady) (first : Action) (cursor : Cursor) (session : Session) :
    (anyOf [sequence [common, first], sequence [common, second]] cursor session).1 =
      (sequence [common, anyOf [first, second]] cursor session).1 := by
  simp only [anyOf, anyOfFrom, sequence, sequenceFrom]
  rcases ran : common cursor session with ⟨fault | ⟨value, next⟩ | failure, after⟩
  · rfl
  · dsimp only
    rcases first next after with ⟨fault | ⟨argument, last⟩ | failure, later⟩
    · rfl
    · rfl
    · -- The common part is read again, in the session that the first alternative left.
      obtain ⟨third, again⟩ := steady.exists_again ran later
      simp only [again]
      have same := steadySecond next later third
      generalize second next later = ran, second next third = reran at same ⊢
      obtain ⟨answer, final⟩ := ran
      obtain ⟨other, otherFinal⟩ := reran
      obtain rfl : other = answer := same
      rcases other with fault | ⟨argument, last⟩ | other <;> rfl
  · obtain ⟨later, again⟩ := steady.exists_again ran after
    simp [again, furthest]

end Action

namespace Parser

variable {environment : Environment} {first second : Parser} {cursor : Cursor}
  {answer : Except Fault Outcome}

/-! ## Parsers that may stand for each other -/

/-- Some run of a parser at a position, as deep as need be, ends with an answer. -/
def Answers (environment : Environment) (parser : Parser) (cursor : Cursor)
    (answer : Except Fault Outcome) : Prop :=
  answer ≠ .error .unbounded ∧
    ∃ depth session, (runWithin environment depth parser cursor session).1 = answer

/-- Two parsers answer the same at every position. -/
def Interchangeable (environment : Environment) (first second : Parser) : Prop :=
  ∀ cursor answer,
    first.Answers environment cursor answer ↔ second.Answers environment cursor answer

/-- The answer of a parser is that of all deeper runs, in every session. -/
theorem Answers.exists_depth {parser : Parser}
    (answers : parser.Answers environment cursor answer) :
    answer ≠ .error .unbounded ∧ ∃ depth, ∀ deeper, depth ≤ deeper → ∀ session,
      (runWithin environment deeper parser cursor session).1 = answer := by
  obtain ⟨ended, depth, session, ran⟩ := answers
  refine ⟨ended, depth, fun deeper le other => ?_⟩
  rw [isSteady_runWithin environment deeper parser cursor session other,
    runWithin_deeper le (by rwa [ran]), ran]

/-- An answer is the outcome of the run in a fresh session, if no primitive goes back. -/
theorem answers_iff_outcomeAt {parser : Parser} (forward : parser.IsForward environment) :
    parser.Answers environment cursor answer ↔
      answer ≠ .error .unbounded ∧ parser.outcomeAt environment cursor = answer := by
  constructor
  · intro answers
    obtain ⟨ended, depth, deeper⟩ := answers.exists_depth
    have ran := deeper depth (Nat.le_refl depth) .fresh
    refine ⟨ended, ?_⟩
    rw [outcomeAt, run_eq_of_ended forward (by rwa [ran]), ran]
  · rintro ⟨ended, ran⟩
    exact ⟨ended, _, .fresh, ran⟩

/-- Parsers that answer the same, each with its own rules, have the same outcomes. -/
theorem outcomeAt_eq_of_answers {otherEnvironment : Environment}
    (forward : first.IsForward environment) (forwardSecond : second.IsForward otherEnvironment)
    (same : ∀ answer, first.Answers environment cursor answer ↔
      second.Answers otherEnvironment cursor answer) :
    first.outcomeAt environment cursor = second.outcomeAt otherEnvironment cursor := by
  have outcome_iff (answer : Except Fault Outcome) (ended : answer ≠ .error .unbounded) :
      first.outcomeAt environment cursor = answer ↔
        second.outcomeAt otherEnvironment cursor = answer := by
    simpa [answers_iff_outcomeAt, forward, forwardSecond, ended] using same answer
  by_cases cut : second.outcomeAt otherEnvironment cursor = .error .unbounded
  · rw [cut]
    by_contra ended
    exact ended (((outcome_iff _ ended).mp rfl).symm.trans cut)
  · exact (outcome_iff _ cut).mpr rfl

theorem Interchangeable.outcomeAt_eq (same : Interchangeable environment first second)
    (forward : first.IsForward environment) (forwardSecond : second.IsForward environment) :
    first.outcomeAt environment cursor = second.outcomeAt environment cursor :=
  outcomeAt_eq_of_answers forward forwardSecond (same cursor)

/-- Parsers answer the same if their runs do, apart from some levels of depth. -/
theorem interchangeable_of_answer_eq (more less : Nat)
    (same : ∀ depth cursor session,
      (runWithin environment (depth + more) first cursor session).1 =
        (runWithin environment (depth + less) second cursor session).1) :
    Interchangeable environment first second := by
  intro cursor answer
  constructor
  · intro answers
    obtain ⟨ended, depth, deeper⟩ := answers.exists_depth
    refine ⟨ended, depth + less, .fresh, ?_⟩
    rw [← same, deeper _ (Nat.le_add_right depth more)]
  · intro answers
    obtain ⟨ended, depth, deeper⟩ := answers.exists_depth
    refine ⟨ended, depth + more, .fresh, ?_⟩
    rw [same, deeper _ (Nat.le_add_right depth less)]

/-- More depth changes no answer of two steps. -/
theorem answer_pair_deeper {depth deeper below lower : Nat} {session : Session}
    (le : depth ≤ deeper) (leBelow : below ≤ lower)
    (ran : (Action.sequence [runWithin environment depth first, runWithin environment below second]
      cursor session).1 = answer) (ended : answer ≠ .error .unbounded) :
    (Action.sequence [runWithin environment deeper first, runWithin environment lower second]
      cursor session).1 = answer := by
  have mirrors {depth deeper : Nat} (le : depth ≤ deeper) (parser : Parser) :=
    mirrors_deeper Session.isLikeness_eq isClosed_everywhere (staysIn_everywhere environment parser)
      le
  have pair := Action.Mirrors.sequenceFrom
    (.cons (mirrors le first) (.cons (mirrors leBelow second) .nil)) []
  have mirrored := pair cursor trivial session session rfl
  exact (mirrored.answer_eq_of_ended (ran ▸ ended)).1.trans ran

/-- What two alternatives begin with may be taken out of them. -/
theorem interchangeable_leftFactor (environment : Environment) (common first second : Parser) :
    Interchangeable environment (anyOf [sequence [common, first], sequence [common, second]])
      (sequence [common, anyOf [first, second]]) := by
  have factored (depth : Nat) (cursor : Cursor) (session : Session) :
      (runWithin environment (depth + 2)
        (anyOf [sequence [common, first], sequence [common, second]]) cursor session).1 =
      (Action.sequence [runWithin environment depth common,
        runWithin environment (depth + 1) (anyOf [first, second])] cursor session).1 :=
    Action.answer_anyOf_sequence (isSteady_runWithin environment depth common)
      (isSteady_runWithin environment depth second) _ cursor session
  -- The common part is one level further down where it stands in the alternatives.
  intro cursor answer
  constructor
  · intro answers
    obtain ⟨ended, depth, deeper⟩ := answers.exists_depth
    have ran := deeper (depth + 2) (Nat.le_add_right depth 2) .fresh
    rw [factored] at ran
    exact ⟨ended, depth + 2, .fresh,
      answer_pair_deeper (Nat.le_succ depth) (Nat.le_refl _) ran ended⟩
  · intro answers
    obtain ⟨ended, depth, deeper⟩ := answers.exists_depth
    have ran := deeper (depth + 2) (Nat.le_add_right depth 2) .fresh
    refine ⟨ended, depth + 3, .fresh, ?_⟩
    rw [factored]
    exact answer_pair_deeper (Nat.le_refl _) (Nat.le_succ _) ran ended

/--
Grammars may be rewritten by five laws without changing an answer at any position, for all parsers
and all functions of values, wherever failures lie: choices in a choice are joined if none is empty;
concatenations in a concatenation are joined, up to the grouping of the values; what two
alternatives begin with is taken out; a function of the value is moved into the alternatives; and an
option is a choice with nothing as its last alternative.  If no function of the position goes back,
parsers that answer the same have the same outcomes.
-/
theorem refactorings_preserve_answers (environment : Environment) (common first second : Parser)
    (alternatives others : List Parser) (function : Value → Value) :
    (alternatives ≠ [] → others ≠ [] →
        Interchangeable environment (anyOf [anyOf alternatives, anyOf others])
          (anyOf (alternatives ++ others))) ∧
      Interchangeable environment (sequence [sequence alternatives, sequence others])
        (transform (Value.splitAt alternatives.length) (sequence (alternatives ++ others))) ∧
      Interchangeable environment (anyOf [sequence [common, first], sequence [common, second]])
        (sequence [common, anyOf [first, second]]) ∧
      Interchangeable environment (transform function (anyOf alternatives))
        (anyOf (alternatives.map (transform function))) ∧
      Interchangeable environment (optional common) (anyOf [common, succeed .null]) ∧
      ∀ left right, Interchangeable environment left right →
        left.IsForward environment → right.IsForward environment →
          ∀ cursor, left.outcomeAt environment cursor = right.outcomeAt environment cursor := by
  refine ⟨fun consFirst consSecond => ?_, ?_,
    interchangeable_leftFactor environment common first second, ?_, ?_,
    fun left right same forward forwardRight cursor => same.outcomeAt_eq forward forwardRight⟩
  · refine interchangeable_of_answer_eq 2 1 fun depth cursor session => ?_
    simp only [runWithin, List.map_cons, List.map_nil, List.map_append]
    rw [Action.anyOf_anyOf (by simpa) (by simpa)]
  · refine interchangeable_of_answer_eq 2 2 fun depth cursor session => ?_
    simp only [runWithin, List.map_cons, List.map_nil, List.map_append]
    rw [Action.sequence_sequence, List.length_map]
  · refine interchangeable_of_answer_eq 2 2 fun depth cursor session => ?_
    simp only [runWithin, Action.transform_anyOf, List.map_map]
    rfl
  · refine interchangeable_of_answer_eq 2 2 fun depth cursor session => ?_
    simp only [runWithin, Action.optional_eq_anyOf]
    rfl

theorem occurs_failAt {part : Parser} {offset : Int} {label : String} :
    Occurs environment part (failAt offset label) ↔ part = failAt offset label :=
  occurs_primitive

/-- What fails everywhere does not go back. -/
theorem goesForward_failAt {offset : Int} {label : String}
    {answer : Cursor → Except Fault Outcome} (isFailure : primitive answer = failAt offset label) :
    (Action.ofFunction answer).GoesForward := by
  obtain rfl := Parser.primitive.inj isFailure
  intro cursor session value next after ran
  simp only [Action.ofFunction] at ran
  split at ran <;> cases ran

/-- Of two failures at the same place in two choices, the one of the first choice is kept. -/
theorem joined_choices_with_equally_far_failures :
    let alternatives := [literal "b" (by decide), failAt 1 "x"]
    let others := [failAt 1 "y", literal "c" (by decide)]
    let joined := anyOf (alternatives ++ others)
    let nested := anyOf [anyOf alternatives, anyOf others]
    let start := Cursor.start ⟨['a'], 1, rfl⟩
    (alternatives ≠ [] ∧ others ≠ [] ∧ Interchangeable .empty nested joined) ∧
      (nested.IsForward .empty ∧ joined.IsForward .empty) ∧
      nested.outcomeAt .empty start = .ok (.failed ⟨"x", start.forward 1⟩) := by
  intro alternatives others joined nested start
  obtain ⟨interchangeable, -, -, -, -, outcomes⟩ :=
    refactorings_preserve_answers .empty endOfInput endOfInput endOfInput alternatives others id
  have same : Interchangeable .empty nested joined :=
    interchangeable (List.cons_ne_nil _ _) (List.cons_ne_nil _ _)
  have forward : nested.IsForward .empty ∧ joined.IsForward .empty := by
    constructor <;> intro answer occurs <;>
      simp [nested, joined, alternatives, others, occurs_anyOf, occurs_literal,
        occurs_failAt] at occurs <;>
      rcases occurs with isFailure | isFailure <;>
      exact goesForward_failAt isFailure
  refine ⟨⟨List.cons_ne_nil _ _, List.cons_ne_nil _ _, same⟩, forward, ?_⟩
  rw [outcomes nested joined same forward.1 forward.2 start]
  rfl

/-- An empty choice fails by itself, so that it may not be left out of a choice. -/
example :
    let start := Cursor.start ⟨['a'], 1, rfl⟩
    (anyOf [anyOf [], anyOf [literal "b" (by decide)]]).outcomeAt .empty start =
        .ok (.failed ⟨noAlternativeLabel, start⟩) ∧
      (anyOf ([] ++ [literal "b" (by decide)])).outcomeAt .empty start =
        .ok (.failed ⟨"b", start⟩) := ⟨rfl, rfl⟩

end Parser
end Descent
