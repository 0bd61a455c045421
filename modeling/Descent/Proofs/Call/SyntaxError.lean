import Descent.Proofs.Call.FailureReport
import Descent.Proofs.Call.TrailingText
import Descent.Proofs.Parser.Diagnosis
import Descent.Proofs.Text.Place

/-!
# Syntax errors

A reader whose limits hold finds an expression, or raises a syntax error.  All that the error shows
comes from the failure of the grammar: the label, the offset, the span, the message and the code.
No failure of the grammar is that of an empty choice, and only an expression in front of more text
is reported as trailing text.
-/

namespace Descent

/-- Apart from empty choices, all failures have diagnostics of one form, told apart by the code. -/
theorem Failure.toDiagnostic_eq {failure : Failure}
    (notEmpty : failure.expected ≠ noAlternativeLabel) :
    failure.toDiagnostic =
      { Diagnostic.expectedToken failure.expected failure.cursor.span with
        code := if failure.expected = endOfInputLabel then .trailingInput else .expected } := by
  by_cases trailing : failure.expected = endOfInputLabel
  · rw [toDiagnostic, if_neg notEmpty, if_pos trailing, if_pos trailing, trailing]
    rfl
  · rw [failure.toDiagnostic_of_ordinary trailing notEmpty, if_neg trailing]
    rfl

namespace Call

/-- A strict reader leaves text if an expression stands in front of it. -/
def Reader.LeavesText (reader : Reader) (source : Source) : Prop :=
  reader.strict = true ∧ ∃ value next,
    expression.outcomeAt environment (Cursor.start source) = .ok (.matched value next) ∧
      next.offset < source.size

variable {reader : Reader} {source : Source} {failure : Failure}

/-- Of the failures of a reader, only that of text behind an expression has the label of the end. -/
theorem Reader.expected_eq_endOfInput_iff (limits : reader.checkLimits source = .ok ())
    (failed : reader.outcome source = .ok (.failed failure)) :
    failure.expected = endOfInputLabel ↔ reader.LeavesText source := by
  obtain ⟨ending, height, attempt⟩ := Attempt.attempted (.once .expression) source.chars
  have answer : ruleOutcome Symbol.expression.rule (Cursor.start source) =
      .ok (ending.outcome (Cursor.start source)) := ruleOutcome_eq attempt
  change expression.outcomeAt environment (Cursor.start source) = _ at answer
  rw [Reader.outcome_eq limits attempt] at failed
  obtain failed := Except.ok.inj failed
  cases ending with
  | broken label taken =>
      obtain rfl := Outcome.failed.inj failed
      obtain ⟨kind, rfl, fails⟩ := reader.exists_failsAt_of_broken attempt
      constructor
      · intro label_eq
        change kind.label = endOfInputLabel at label_eq
        generalize taken.length = offset at fails
        cases fails with
        | noStart | notOpened | notClosed => exact absurd label_eq (by decide)
        | trailing _ isLongest =>
            exact absurd isLongest.isPrefix (attempt.not_isPrefix_of_broken _)
      · rintro ⟨-, value, next, matched, -⟩
        cases answer.symm.trans matched
  | complete derivation =>
      rw [Ending.judged] at failed
      split at failed
      · rename_i trailing
        obtain rfl := Outcome.failed.inj failed
        refine ⟨fun _ => ⟨trailing.1, _, _, answer, ?_⟩, fun _ => rfl⟩
        have inside := (isAtEnd_eq_false_iff _).mp trailing.2
        exact Nat.lt_of_le_of_ne (Cursor.offset_le _) inside
      · cases failed

/-- What a syntax error shows, in words of the failure that it was made from. -/
structure Reports (reader : Reader) (text : String) (failure : Failure) (error : SyntaxError)
    (diagnostic : Diagnostic) : Prop where
  failure_eq : error.failure = some failure
  expected_eq : error.expected = failure.expected
  offset_eq : error.offset = failure.offset
  source_eq : error.source = text ∧ failure.cursor.source = Source.ofString text
  diagnostic_eq : (Fault.syntaxError error).diagnostic? = some diagnostic
  label_eq : diagnostic.expected = some failure.expected
  message_eq : diagnostic.message =
    s!"Parse error, expected {failure.expected} at char {failure.offset}"
  wording_eq : (Fault.syntaxError error).message? = some diagnostic.message
  /-- The span is a valid one. -/
  span_eq : ∃ span, diagnostic.span = some span ∧ span.IsAt text.toList failure.offset ∧
    Span.ofNumbers failure.offset failure.offset span.line span.column = .ok span
  code_eq : diagnostic.code = .trailingInput ∧ reader.LeavesText (Source.ofString text) ∨
    diagnostic.code = .expected ∧ ¬ reader.LeavesText (Source.ofString text)

/-- A failure within the limits is reported by the syntax error that is made from it. -/
theorem reports_ofFailure {text : String}
    (limits : reader.checkLimits (Source.ofString text) = .ok ())
    (failed : reader.outcome (Source.ofString text) = .ok (.failed failure)) :
    Reports reader text failure (.ofFailure failure text) failure.toDiagnostic := by
  obtain ⟨kind, offset, -, label_eq, cursor_eq⟩ := Reader.exists_failsAt limits failed
  have source_eq : failure.cursor.source = Source.ofString text := by
    rw [cursor_eq]
    rfl
  have notEmpty : failure.expected ≠ noAlternativeLabel := by
    rw [label_eq]
    exact fun same => kind.label_not_mem (by simp [same])
  have trailing_iff := Reader.expected_eq_endOfInput_iff limits failed
  have isAt := failure.cursor.isAt_span
  rw [source_eq] at isAt
  have toDiagnostic_eq := Failure.toDiagnostic_eq notEmpty
  refine ⟨rfl, rfl, rfl, ⟨rfl, source_eq⟩, rfl, ?_, ?_, rfl,
    ⟨failure.cursor.span, ?_, isAt, ?_⟩, ?_⟩
  · rw [toDiagnostic_eq]
    rfl
  · rw [toDiagnostic_eq]
    rfl
  · rw [toDiagnostic_eq]
    rfl
  · exact failure.cursor.span.ofNumbers_eq
  · rw [toDiagnostic_eq, ← trailing_iff]
    by_cases trailing : failure.expected = endOfInputLabel
    · exact .inl ⟨if_pos trailing, trailing⟩
    · exact .inr ⟨if_neg trailing, trailing⟩

/--
All views of a syntax error agree.  Within its limits a reader reads a value exactly if that is the
value of the outcome.  Otherwise the outcome is a failure and a syntax error is raised, which shows
that failure, its label, its offset and the text.  Its diagnostic has an empty span at the place of
the offset, which is always a valid one, and the same label; the message tells label and offset.
The code is that of trailing text exactly if the reader is strict and an expression stands in front
of more text, and else that of a mismatch.
-/
theorem syntax_error_views_agree (reader : Reader) (text : String)
    (limits : reader.checkLimits (Source.ofString text) = .ok ()) :
    (∀ value, reader.read text = .ok value ↔
      ∃ next, reader.outcome (Source.ofString text) = .ok (.matched value next)) ∧
    ((∀ value, reader.read text ≠ .ok value) →
      ∃ failure error diagnostic,
        reader.outcome (Source.ofString text) = .ok (.failed failure) ∧
        reader.read text = .error (.syntaxError error) ∧
        Reports reader text failure error diagnostic) := by
  constructor
  · intro value
    constructor
    · exact Reader.exists_outcome_of_read
    · rintro ⟨next, matched⟩
      exact Reader.read_of_outcome matched
  · intro unread
    obtain ⟨value, next, matched⟩ | ⟨failure, failed⟩ :
        (∃ value next, reader.outcome (Source.ofString text) = .ok (.matched value next)) ∨
          ∃ failure, reader.outcome (Source.ofString text) = .ok (.failed failure) := by
      obtain ⟨outcome, answer⟩ := Reader.exists_outcome limits
      cases outcome with
      | matched value next => exact .inl ⟨value, next, answer⟩
      | failed failure => exact .inr ⟨failure, answer⟩
    · exact absurd (Reader.read_of_outcome matched) (unread value)
    · have read : reader.read text = .error (.syntaxError (.ofFailure failure text)) := by
        rw [Reader.read, failed]
      exact ⟨failure, _, _, failed, read, reports_ofFailure limits failed⟩

/-- A strict reader reports the mark behind a number as text that is left. -/
theorem syntax_error_of_mark_behind_number :
    let reader := Reader.configure true none none
    reader.checkLimits (Source.ofString "1)") = .ok () ∧
      (∀ value, reader.read "1)" ≠ .ok value) ∧
      ∃ error diagnostic, reader.read "1)" = .error (.syntaxError error) ∧
        error.offset = 1 ∧ (Fault.syntaxError error).diagnostic? = some diagnostic ∧
        diagnostic.code = .trailingInput ∧
        diagnostic.message = "Parse error, expected end of input at char 1" := by
  intro reader
  have limits : reader.checkLimits (Source.ofString "1)") = .ok () := by
    rw [Reader.checkLimits_eq_ok_iff]
    decide +kernel
  have failed : reader.outcome (Source.ofString "1)") =
      .ok (.failed ⟨endOfInputLabel, (Cursor.start (Source.ofString "1)")).forward 1⟩) := by
    rw [Reader.outcome, limits]
    rfl
  have unread (value : Value) : reader.read "1)" ≠ .ok value := by
    intro read
    rw [Reader.read, failed] at read
    cases read
  obtain ⟨failure, error, diagnostic, failed', read, reports⟩ :=
    (syntax_error_views_agree reader "1)" limits).2 unread
  obtain rfl := Outcome.failed.inj (Except.ok.inj (failed.symm.trans failed'))
  refine ⟨limits, unread, error, diagnostic, read, reports.offset_eq, reports.diagnostic_eq, ?_,
    reports.message_eq⟩
  have trailing := (Reader.expected_eq_endOfInput_iff limits failed).mp rfl
  exact (reports.code_eq.resolve_right fun other => other.2 trailing).1

end Call
end Descent
