import Descent.Call.Reader
import Descent.Proofs.Call.LongestPrefix
import Descent.Proofs.Call.Simulation

/-!
# What the rules and the readers of call expressions answer

The depth that a run is given is enough for every rule of the grammar and for every reader, so that
the attempt at a text tells the answer and the history of the run.  A rule answers with the longest
derivation at its position, or fails if there is none.
-/

namespace Descent
namespace Call

open Descent.Parser

variable {cursor : Cursor} {height levels : Nat} {outcome : Outcome} {parser : Parser}

/-- The depth that is given to a run pays for every character, and for some levels more. -/
theorem le_sufficientDepth {margin : Nat} (parser : Parser) (cursor : Cursor) (le : margin ≤ 23) :
    13 * cursor.remaining + margin ≤ sufficientDepth environment parser cursor := by
  have weight : environment.weight = 22 := rfl
  have factor : (cursor.remaining + 1) * 23 ≤ sufficientDepth environment parser cursor := by
    rw [sufficientDepth, weight]
    exact Nat.mul_le_mul_left _ (by omega)
  omega

theorem RunsTo.answers {margin : Nat}
    (runs : RunsTo (13 * cursor.remaining + margin) parser cursor outcome height)
    (le : margin ≤ 23) :
    parser.outcomeAt environment cursor = .ok outcome ∧
      openDepth parser cursor = height := by
  obtain ⟨moments, settled, opens⟩ := runs
  have enough := le_sufficientDepth parser cursor le
  exact ⟨settled.outcomeAt enough, by rw [openDepth, settled.historyAt enough, opens.deepest_nil]⟩

/-! ## Rules -/

theorem Symbol.margin_le (symbol : Symbol) : symbol.margin ≤ 10 := by
  cases symbol <;> decide

/-- A rule answers what the attempt at the text says. -/
theorem ruleOutcome_eq {symbol : Symbol} {ending : Ending (.once symbol)}
    (attempt : Attempt (.once symbol) cursor.rest ending height) :
    ruleOutcome symbol.rule cursor = .ok (ending.outcome cursor) :=
  (RunsTo.answers (attempt.simulates cursor rfl)
    (Nat.le_trans symbol.margin_le (by decide))).1

/-- A derivation with the longest text at the front of a text, and the only one of its text. -/
structure IsLongest {symbol : Symbol} (text : List Char) (derivation : Derivation (.once symbol)) :
    Prop where
  isPrefix : derivation.text <+: text
  length_le (other : Derivation (.once symbol)) :
    other.text <+: text → other.text.length ≤ derivation.text.length
  unique (other : Derivation (.once symbol)) : other.text = derivation.text → other = derivation

/-- An outcome tells the longest derivation of a symbol at a position, or that there is none. -/
def Recognizes (symbol : Symbol) (cursor : Cursor) : Outcome → Prop
  | .matched value next =>
      ∃ derivation : Derivation (.once symbol),
        IsLongest cursor.rest derivation ∧ value = derivation.value ∧
          next = cursor.forward derivation.text.length
  | .failed _ => ∀ derivation : Derivation (.once symbol), ¬ derivation.text <+: cursor.rest

theorem Attempt.isLongest {symbol : Symbol} {text : List Char}
    {derivation : Derivation (.once symbol)}
    (attempt : Attempt (.once symbol) text (.complete derivation) height) :
    IsLongest text derivation where
  isPrefix := attempt.taken_isPrefix
  length_le := attempt.length_le_of_isPrefix
  unique _ text_eq := Derivation.eq_of_text_eq text_eq

/-- Every rule answers at every position, and recognizes its symbol there. -/
theorem exists_recognizes (symbol : Symbol) (cursor : Cursor) :
    ∃ outcome, ruleOutcome symbol.rule cursor = .ok outcome ∧
      Recognizes symbol cursor outcome := by
  obtain ⟨ending, height, attempt⟩ := Attempt.attempted (.once symbol) cursor.rest
  refine ⟨ending.outcome cursor, ruleOutcome_eq attempt, ?_⟩
  cases ending with
  | complete derivation => exact ⟨derivation, attempt.isLongest, rfl, rfl⟩
  | broken label taken => exact attempt.not_isPrefix_of_broken

/-! ## Readers -/

theorem Reader.checkLimits_eq_ok_iff {reader : Reader} {source : Source} :
    reader.checkLimits source = .ok () ↔
      reader.isTooLarge source = false ∧ reader.isTooDeep source = false := by
  unfold Reader.checkLimits
  cases reader.isTooLarge source <;> cases reader.isTooDeep source <;> simp

/-- The outcome of a reader for the ending of an attempt at an expression. -/
def Ending.judged (strict : Bool) (cursor : Cursor) : Ending (.once .expression) → Outcome
  | complete derivation =>
      if strict = true ∧ (cursor.forward derivation.text.length).isAtEnd = false then
        .failed ⟨endOfInputLabel, cursor.forward derivation.text.length⟩
      else .matched derivation.value (cursor.forward derivation.text.length)
  | broken label taken => .failed ⟨label, cursor.forward taken.length⟩

theorem runsTo_endOfInput (atEnd : cursor.isAtEnd = true) :
    RunsTo 1 .endOfInput cursor (.matched .null cursor) 0 :=
  ⟨_, settled_endOfInput_took atEnd, opens_singleton fun _ => rfl⟩

theorem runsTo_noEnd (inside : cursor.isAtEnd = false) :
    RunsTo 1 .endOfInput cursor (.failed ⟨endOfInputLabel, cursor⟩) 0 :=
  ⟨_, settled_endOfInput_failed inside, opens_failed _ _⟩

theorem runsTo_wholeExpression {ending : Ending (.once .expression)}
    (attempt : RunsTo (levels + 1) expression cursor (ending.outcome cursor) height) :
    RunsTo (levels + 3) wholeExpression cursor (ending.judged true cursor) height := by
  obtain ⟨moments, settled, opens⟩ := attempt
  cases ending with
  | broken label taken =>
      exact ⟨_, .transform expressionOfParts (StepsSettled.sequence
        (Settled.steps_failed settled [.endOfInput])), opens⟩
  | complete derivation =>
      rw [Ending.judged]
      cases atEnd : (cursor.forward derivation.text.length).isAtEnd with
      | true =>
          obtain ⟨endMoments, finished, endOpens⟩ :=
            (runsTo_endOfInput atEnd).mono (Nat.le_add_left 1 levels)
          have steps := settled.steps_matched (finished.steps_matched (stepsSettled_nil _ _ _))
          rw [if_neg (by simp)]
          refine ⟨_, .transform expressionOfParts steps.sequence, ?_⟩
          simpa using opens.append (endOpens.append opens_nil)
      | false =>
          obtain ⟨endMoments, refused, endOpens⟩ :=
            (runsTo_noEnd atEnd).mono (Nat.le_add_left 1 levels)
          have steps := settled.steps_matched (refused.steps_failed [])
          rw [if_pos (by simp)]
          refine ⟨_, .transform expressionOfParts steps.sequence, ?_⟩
          simpa using opens.append endOpens

/-- The parser of a reader answers what the attempt at the text says. -/
theorem Reader.parser_answers (reader : Reader) {ending : Ending (.once .expression)}
    (attempt : Attempt (.once .expression) cursor.rest ending height) :
    reader.parser.outcomeAt environment cursor = .ok (ending.judged reader.strict cursor) ∧
      openDepth reader.parser cursor = height := by
  have runs : RunsTo (13 * cursor.remaining + 7) expression cursor (ending.outcome cursor) height :=
    attempt.simulates cursor rfl
  unfold Reader.parser
  cases reader.strict with
  | true =>
      have whole : RunsTo (13 * cursor.remaining + 9) wholeExpression cursor
          (ending.judged true cursor) height := runsTo_wholeExpression runs
      exact whole.answers (by decide)
  | false =>
      have judged_eq : ending.judged false cursor = ending.outcome cursor := by
        cases ending <;> rfl
      rw [judged_eq]
      exact RunsTo.answers runs (by decide)

/-- A reader whose limits allow a source answers what the attempt at its text says. -/
theorem Reader.outcome_eq {reader : Reader} {source : Source}
    {ending : Ending (.once .expression)} (limits : reader.checkLimits source = .ok ())
    (attempt : Attempt (.once .expression) source.chars ending height) :
    reader.outcome source = .ok (ending.judged reader.strict (Cursor.start source)) := by
  rw [Reader.outcome, limits]
  exact (reader.parser_answers attempt).1

theorem Reader.read_of_outcome {reader : Reader} {text : String} {value : Value} {next : Cursor}
    (answer : reader.outcome (Source.ofString text) = .ok (.matched value next)) :
    reader.read text = .ok value := by
  rw [Reader.read, answer]

theorem Reader.exists_outcome_of_read {reader : Reader} {text : String} {value : Value}
    (read : reader.read text = .ok value) :
    ∃ next, reader.outcome (Source.ofString text) = .ok (.matched value next) := by
  unfold Reader.read at read
  split at read
  · contradiction
  · rename_i found next answer
    obtain rfl := Except.ok.inj read
    exact ⟨next, answer⟩
  · contradiction

theorem isAtEnd_forward_iff (cursor : Cursor) {taken rest : List Char}
    (text_eq : cursor.rest = taken ++ rest) :
    (cursor.forward taken.length).isAtEnd = true ↔ rest = [] := by
  have lengths := (cursor.forward taken.length).length_rest
  rw [Cursor.rest_forward_of_eq_append text_eq, Cursor.remaining] at lengths
  rw [Cursor.isAtEnd, decide_eq_true_eq, ← List.length_eq_zero_iff]
  omega

/-- A strict reader within its limits finds the derivation of the whole source, if there is one. -/
theorem Reader.matched_iff {reader : Reader} {source : Source} (strict : reader.strict = true)
    (limits : reader.checkLimits source = .ok ()) (value : Value) (next : Cursor) :
    reader.outcome source = .ok (.matched value next) ↔
      ∃ derivation : Derivation (.once .expression),
        derivation.text = source.chars ∧ derivation.value = value ∧
          (Cursor.start source).forward derivation.text.length = next := by
  obtain ⟨ending, height, attempt⟩ := Attempt.attempted (.once .expression) source.chars
  rw [Reader.outcome_eq limits attempt, strict]
  constructor
  · intro answer
    cases ending with
    | broken label taken => simp [Ending.judged] at answer
    | complete derivation =>
        obtain ⟨rest, text_eq⟩ := attempt.exists_rest
        rw [Ending.judged] at answer
        split at answer
        · simp at answer
        · rename_i finished
          have atEnd := (isAtEnd_forward_iff (Cursor.start source) text_eq).mp
            (by simpa using finished)
          obtain ⟨rfl, rfl⟩ := Outcome.matched.inj (Except.ok.inj answer)
          exact ⟨derivation, by rw [text_eq, atEnd, List.append_nil], rfl, rfl⟩
  · rintro ⟨derivation, text_eq, rfl, rfl⟩
    have whole := Attempt.ofDerivation derivation [] (beginsIn_nil _)
    rw [List.append_nil, text_eq] at whole
    obtain ⟨rfl, -⟩ := attempt.unique whole
    have atEnd := (isAtEnd_forward_iff (Cursor.start source)
      (text_eq.symm.trans (List.append_nil _).symm)).mpr rfl
    rw [Ending.judged, if_neg (by simp [atEnd])]

/--
The grammar is read with the longest match: every rule answers at every position, with the longest
derivation there if there is any.  A strict reader accepts exactly the expressions in its limits.
-/
theorem grammar_takes_longest_derivation :
    (∀ (symbol : Symbol) (cursor : Cursor),
        ∃ outcome, ruleOutcome symbol.rule cursor = .ok outcome ∧
          Recognizes symbol cursor outcome) ∧
      ∀ (reader : Reader) (source : Source),
        reader.strict = true → reader.checkLimits source = .ok () →
          ((∃ value next, reader.outcome source = .ok (.matched value next)) ↔
            ∃ derivation : Derivation (.once .expression), derivation.text = source.chars) := by
  refine ⟨exists_recognizes, fun reader source strict limits => ⟨?_, ?_⟩⟩
  · rintro ⟨value, next, answer⟩
    obtain ⟨derivation, text_eq, -⟩ := (Reader.matched_iff strict limits value next).mp answer
    exact ⟨derivation, text_eq⟩
  · rintro ⟨derivation, text_eq⟩
    exact ⟨_, _, (Reader.matched_iff strict limits _ _).mpr ⟨derivation, text_eq, rfl, rfl⟩⟩

theorem strict_reader_takes_call :
    (Reader.configure true none none).checkLimits (Source.ofString "f(1,g())") = .ok () ∧
      ((∃ value next,
          (Reader.configure true none none).outcome (Source.ofString "f(1,g())") =
            .ok (.matched value next)) ↔
        ∃ derivation : Derivation (.once .expression),
          derivation.text = (Source.ofString "f(1,g())").chars) := by
  have limits :
      (Reader.configure true none none).checkLimits (Source.ofString "f(1,g())") = .ok () := by
    rw [Reader.checkLimits_eq_ok_iff]
    decide +kernel
  exact ⟨limits, grammar_takes_longest_derivation.2 _ _ rfl limits⟩

end Call
end Descent
