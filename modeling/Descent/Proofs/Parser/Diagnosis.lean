import Descent.Proofs.Parser.Provenance

/-!
# Causes of failures and their diagnostics

A failure carries its cause in its label, and its diagnostic is chosen by that label.  So the
diagnostic tells which primitive reported the failure, unless a literal or a pattern borrows one of
the labels that stand for the end of the text and for a choice without alternatives.
-/

namespace Descent

/-! ## Diagnostics by label -/

namespace Failure

variable (failure : Failure)

theorem code_eq_trailingInput_iff :
    failure.toDiagnostic.code = .trailingInput ↔ failure.expected = endOfInputLabel := by
  rw [toDiagnostic]
  split
  · rename_i empty
    simp [Diagnostic.noAlternative, empty, noAlternativeLabel, endOfInputLabel]
  · split
    · rename_i trailing
      simp [Diagnostic.trailingInput, trailing]
    · rename_i other
      simp [Diagnostic.expectedToken, other]

theorem code_eq_noAlternative_iff :
    failure.toDiagnostic.code = .noAlternative ↔ failure.expected = noAlternativeLabel := by
  rw [toDiagnostic]
  split
  · rename_i empty
    simp [Diagnostic.noAlternative, empty]
  · rename_i other
    split <;> simp [Diagnostic.trailingInput, Diagnostic.expectedToken, other]

theorem toDiagnostic_of_ordinary (notEnd : failure.expected ≠ endOfInputLabel)
    (notEmpty : failure.expected ≠ noAlternativeLabel) :
    failure.toDiagnostic = .expectedToken failure.expected failure.cursor.span := by
  rw [toDiagnostic, if_neg notEmpty, if_neg notEnd]

end Failure

namespace Parser

/-- A literal or a pattern that fails under a label which stands for another cause. -/
def BorrowsLabel : Parser → Prop
  | literal text _ => text = endOfInputLabel ∨ text = noAlternativeLabel
  | pattern _ label => label = endOfInputLabel ∨ label = noAlternativeLabel
  | _ => False

/--
A diagnostic tells which primitive failed: the codes of the end of the text and of an empty choice
stand for these alone, and any other primitive is named by its label.
-/
structure IsToldBy (reader : Parser) (diagnostic : Diagnostic) : Prop where
  trailingInput_iff : diagnostic.code = .trailingInput ↔ reader = endOfInput
  noAlternative_iff : diagnostic.code = .noAlternative ↔ reader = anyOf []
  expected_of_other : reader ≠ endOfInput → reader ≠ anyOf [] →
    diagnostic.code = .expected ∧ diagnostic.expected = reader.label?

variable {reader : Parser} {failure : Failure}

theorem eq_of_label?_of_not_borrowsLabel (label_eq : reader.label? = some failure.expected)
    (own : ¬ reader.BorrowsLabel) :
    (failure.expected = endOfInputLabel ↔ reader = endOfInput) ∧
      (failure.expected = noAlternativeLabel ↔ reader = anyOf []) := by
  have distinct : noAlternativeLabel ≠ endOfInputLabel := by decide
  cases reader with
  | literal text nonempty =>
      obtain rfl := Option.some.inj label_eq
      simpa [BorrowsLabel, not_or] using own
  | pattern described label =>
      obtain rfl := Option.some.inj label_eq
      simpa [BorrowsLabel, not_or] using own
  | endOfInput =>
      simp [← Option.some.inj label_eq, distinct.symm]
  | anyOf alternatives =>
      cases alternatives with
      | nil => simp [← Option.some.inj label_eq, distinct]
      | cons first others => contradiction
  | primitive | optional | many | sequence | transform | traced | observed | deferred | rule =>
      contradiction

theorem ordinary_of_borrowsLabel (borrows : reader.BorrowsLabel) :
    reader ≠ endOfInput ∧ reader ≠ anyOf [] := by
  constructor <;> rintro rfl <;> exact borrows

theorem reserved_of_borrowsLabel (label_eq : reader.label? = some failure.expected)
    (borrows : reader.BorrowsLabel) :
    failure.expected = endOfInputLabel ∨ failure.expected = noAlternativeLabel := by
  cases reader with
  | literal text nonempty => exact Option.some.inj label_eq ▸ borrows
  | pattern described label => exact Option.some.inj label_eq ▸ borrows
  | endOfInput | primitive | anyOf | optional | many | sequence | transform | traced | observed
  | deferred | rule => exact borrows.elim

/-- The diagnostic of a failure tells the primitive that reported it if its label is its own. -/
theorem isToldBy_toDiagnostic_iff (label_eq : reader.label? = some failure.expected) :
    reader.IsToldBy failure.toDiagnostic ↔ ¬ reader.BorrowsLabel := by
  constructor
  · intro told borrows
    obtain ⟨notEnd, notEmpty⟩ := ordinary_of_borrowsLabel borrows
    rcases reserved_of_borrowsLabel label_eq borrows with trailing | empty
    · exact notEnd (told.trailingInput_iff.mp (failure.code_eq_trailingInput_iff.mpr trailing))
    · exact notEmpty (told.noAlternative_iff.mp (failure.code_eq_noAlternative_iff.mpr empty))
  · intro own
    obtain ⟨trailing_iff, empty_iff⟩ := eq_of_label?_of_not_borrowsLabel label_eq own
    refine ⟨failure.code_eq_trailingInput_iff.trans trailing_iff,
      failure.code_eq_noAlternative_iff.trans empty_iff, fun notEnd notEmpty => ?_⟩
    rw [failure.toDiagnostic_of_ordinary (mt trailing_iff.mp notEnd) (mt empty_iff.mp notEmpty)]
    exact ⟨rfl, label_eq.symm⟩

/-- A failure that a run reports at some moment has the label of the primitive that met it. -/
theorem isOrigin_of_mem_history {environment : Environment} {parser : Parser}
    (plain : parser.IsPlain environment) {depth : Nat} {cursor : Cursor} {session : Session}
    (mem : .failed reader failure ∈ historyWithin environment depth parser cursor session) :
    IsOrigin environment parser reader failure := by
  have accounts := watched_accounts plain depth
  rw [← history_watched] at mem
  exact (accounts.isFrom cursor session _ mem).2

/--
The diagnostic of a failure tells its cause exactly if the cause has a label of its own.  Some
primitive reported the failure during the run; for every one that did, the code of the diagnostic is
that of the end of the text or of an empty choice just for these, and else the label is shown,
unless it is a literal or a pattern under one of their labels.  Where no such part occurs, it always
is.
-/
theorem diagnostic_tells_cause_iff {environment : Environment} {parser : Parser}
    (plain : parser.IsPlain environment) {depth : Nat} {cursor : Cursor} {session after : Session}
    {failure : Failure}
    (ran : runWithin environment depth parser cursor session = (.ok (.failed failure), after)) :
    (∃ reader, .failed reader failure ∈ historyWithin environment depth parser cursor session) ∧
      (∀ reader, .failed reader failure ∈ historyWithin environment depth parser cursor session →
        Occurs environment reader parser ∧
          (reader.IsToldBy failure.toDiagnostic ↔ ¬ reader.BorrowsLabel)) ∧
      ((∀ part, Occurs environment part parser → ¬ part.BorrowsLabel) →
        ∀ reader, .failed reader failure ∈ historyWithin environment depth parser cursor session →
          reader.IsToldBy failure.toDiagnostic) := by
  have answered := (watched_accounts plain depth).answer cursor session
  simp only [action_watched, history_watched, ran] at answered
  have told_iff (reader : Parser)
      (mem : .failed reader failure ∈ historyWithin environment depth parser cursor session) :
      Occurs environment reader parser ∧
        (reader.IsToldBy failure.toDiagnostic ↔ ¬ reader.BorrowsLabel) := by
    have origin := isOrigin_of_mem_history plain mem
    exact ⟨origin.occurs, isToldBy_toDiagnostic_iff origin.label_eq⟩
  refine ⟨answered, told_iff, fun own reader mem => ?_⟩
  obtain ⟨occurs, told_iff⟩ := told_iff reader mem
  exact told_iff.mpr (own reader occurs)

/-- A literal that spells the label of an empty choice is reported as an empty choice. -/
theorem diagnostic_of_borrowed_label :
    let parser := literal noAlternativeLabel (by decide)
    let start := Cursor.start ⟨['x'], 1, rfl⟩
    let failure : Failure := ⟨noAlternativeLabel, start⟩
    runWithin .empty 1 parser start .fresh = (.ok (.failed failure), .fresh) ∧
      .failed parser failure ∈ historyWithin .empty 1 parser start .fresh ∧
      failure.toDiagnostic.code = .noAlternative ∧ parser ≠ anyOf [] ∧
      ¬ parser.IsToldBy failure.toDiagnostic := by
  intro parser start failure
  have plain : parser.IsPlain .empty := isPlain_of_terms rfl rfl
  have ran : runWithin .empty 1 parser start .fresh = (.ok (.failed failure), .fresh) := rfl
  have mem : .failed parser failure ∈ historyWithin .empty 1 parser start .fresh :=
    List.mem_singleton_self _
  obtain ⟨-, told_iff, -⟩ := diagnostic_tells_cause_iff plain ran
  have borrows : parser.BorrowsLabel := .inr rfl
  exact ⟨ran, mem, rfl, nofun, fun told => (told_iff parser mem).2.mp told borrows⟩

end Parser
end Descent
