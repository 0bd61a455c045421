import Descent.Proofs.Call.Nesting

/-!
# Strictness and trailing text

A strict reader and a permissive one with the same limits run the same grammar, and differ only
where an expression is followed by more text.  That text cannot change what a permissive reader
finds, unless the expression is a number and the text goes on with it.
-/

namespace Descent

/-- The outcome to those who want all of the source to be taken. -/
def Outcome.spanning (source : Source) : Outcome → Outcome
  | matched value next =>
      if next.offset = source.size then matched value next
      else failed ⟨endOfInputLabel, next⟩
  | failed failure => failed failure

namespace Call

/-- The reader with the same limits that wants the expression to span the source. -/
def Reader.toStrict (reader : Reader) : Reader := { reader with strict := true }

/-- The reader with the same limits that ignores text after the expression. -/
def Reader.toPermissive (reader : Reader) : Reader := { reader with strict := false }

variable {reader : Reader} {source : Source}

/-! ## One source in both modes -/

/-- Only a limit makes a reader end with a fault. -/
theorem Reader.outcome_eq_error_iff (reader : Reader) (source : Source) (fault : Fault) :
    reader.outcome source = .error fault ↔ reader.checkLimits source = .error fault := by
  cases limits : reader.checkLimits source with
  | error refused => simp [Reader.outcome, limits]
  | ok _ =>
      obtain ⟨outcome, answer⟩ := Reader.exists_outcome limits
      simp [answer]

theorem isAtEnd_eq_false_iff (next : Cursor) :
    next.isAtEnd = false ↔ next.offset ≠ next.source.size := by
  have := next.offset_le
  rw [Cursor.isAtEnd, decide_eq_false_iff_not]
  omega

/-- Strictness only judges where the expression ends. -/
theorem Ending.judged_true (ending : Ending (.once .expression)) :
    ending.judged true (Cursor.start source) =
      (ending.judged false (Cursor.start source)).spanning source := by
  cases ending with
  | broken label taken => rfl
  | complete derivation =>
      have inside := isAtEnd_eq_false_iff ((Cursor.start source).forward derivation.text.length)
      have source_eq : (Cursor.start source).source = source := rfl
      rw [Cursor.source_forward, source_eq] at inside
      simp only [Ending.judged, inside, Outcome.spanning, true_and, Bool.false_eq_true, false_and,
        if_false, ite_not]

/-- A strict reader answers what a permissive one does, if that takes all of the source. -/
theorem Reader.outcome_toStrict (reader : Reader) (source : Source) :
    reader.toStrict.outcome source =
      (reader.toPermissive.outcome source).map (Outcome.spanning source) := by
  cases limits : reader.checkLimits source with
  | error refused =>
      have strict := (reader.toStrict.outcome_eq_error_iff source refused).mpr limits
      have permissive := (reader.toPermissive.outcome_eq_error_iff source refused).mpr limits
      rw [strict, permissive, Except.map]
  | ok _ =>
      obtain ⟨ending, height, attempt⟩ := Attempt.attempted (.once .expression) source.chars
      have strict : reader.toStrict.outcome source = .ok (ending.judged true _) :=
        Reader.outcome_eq limits attempt
      have permissive : reader.toPermissive.outcome source = .ok (ending.judged false _) :=
        Reader.outcome_eq limits attempt
      rw [strict, permissive, Except.map]
      exact congrArg Except.ok ending.judged_true

/-! ## Text behind an expression -/

/-- The attempt at an expression does not depend on text that cannot go on with it. -/
theorem Attempt.append_trailing (derivation : Derivation (.once .expression))
    {trailing : List Char}
    (stops : derivation.value.isCall = true ∨ NumberEnds trailing) :
    Attempt (.once .expression) (derivation.text ++ trailing) (.complete derivation)
      derivation.depth := by
  cases derivation with
  | ofCall inner => exact .ofCall (.ofCallDerivation inner trailing)
  | ofNumber inner =>
      cases inner with
      | numberLiteral literal =>
          rcases stops with isCall | ends
          · contradiction
          · exact .ofNumber_of_split? (literal.split?_append ends)

theorem nestingDepth_append_trailing (derivation : Derivation (.once .expression))
    {trailing : List Char} (stops : derivation.value.isCall = true ∨ NumberEnds trailing) :
    nestingDepth (derivation.text ++ trailing) = nestingDepth derivation.text := by
  have ends : NumberEnds [] := nofun
  have alone := Attempt.append_trailing derivation (.inr ends)
  rw [List.append_nil] at alone
  rw [nestingDepth_eq_height alone, nestingDepth_eq_height (.append_trailing derivation stops)]

/-- A permissive reader finds an expression in front of text that cannot go on with it. -/
theorem Reader.outcome_append_trailing (derivation : Derivation (.once .expression))
    {trailing : List Char} (stops : derivation.value.isCall = true ∨ NumberEnds trailing)
    (chars_eq : source.chars = derivation.text ++ trailing)
    (small : reader.isTooLarge source = false)
    (shallow : nestingDepth derivation.text ≤ reader.maxDepth) :
    reader.toPermissive.outcome source =
      .ok (.matched derivation.value
        ((Cursor.start source).forward derivation.text.length)) := by
  have deep : reader.isTooDeep source = false := by
    rw [Reader.isTooDeep, chars_eq, nestingDepth_append_trailing derivation stops]
    exact decide_eq_false (Int.not_lt.mpr shallow)
  have limits : reader.toPermissive.checkLimits source = .ok () :=
    Reader.checkLimits_eq_ok_iff.mpr ⟨small, deep⟩
  have attempt := Attempt.append_trailing derivation stops
  rw [← chars_eq] at attempt
  rw [Reader.outcome_eq limits attempt, Ending.judged, if_neg (by simp [Reader.toPermissive])]

/-- A strict reader takes what is derived by the whole text, within its limits. -/
theorem Reader.read_toStrict_iff (reader : Reader) (text : String) (value : Value) :
    reader.toStrict.read text = .ok value ↔
      reader.checkLimits (Source.ofString text) = .ok () ∧
        ∃ derivation : Derivation (.once .expression),
          derivation.text = text.toList ∧ derivation.value = value := by
  constructor
  · intro read
    obtain ⟨next, answer⟩ := Reader.exists_outcome_of_read read
    cases limits : reader.toStrict.checkLimits (Source.ofString text) with
    | error fault =>
        rw [(reader.toStrict.outcome_eq_error_iff _ fault).mpr limits] at answer
        contradiction
    | ok _ =>
        obtain ⟨derivation, text_eq, value_eq, -⟩ :=
          (Reader.matched_iff rfl limits value next).mp answer
        exact ⟨limits, derivation, text_eq, value_eq⟩
  · rintro ⟨limits, derivation, text_eq, rfl⟩
    have strictLimits : reader.toStrict.checkLimits (Source.ofString text) = .ok () := limits
    exact Reader.read_of_outcome
      ((Reader.matched_iff rfl strictLimits _ _).mpr ⟨derivation, text_eq, rfl, rfl⟩)

/--
Strict and permissive readers with the same limits refuse the same sources and report the same
failures; what a permissive reader matches is a match to a strict one if all of the source is taken,
and trailing text otherwise.  What a strict reader takes is found by the permissive one in front of
any text that does not go on with a number, with the same nesting depth.
-/
theorem strictness_and_trailing_text (reader : Reader) :
    (∀ source fault,
        (reader.toStrict.outcome source = .error fault ↔
            reader.toStrict.checkLimits source = .error fault) ∧
          (reader.toPermissive.outcome source = .error fault ↔
            reader.toStrict.checkLimits source = .error fault)) ∧
      (∀ source failure, reader.toPermissive.outcome source = .ok (.failed failure) →
        reader.toStrict.outcome source = .ok (.failed failure)) ∧
      (∀ source value next, reader.toPermissive.outcome source = .ok (.matched value next) →
        reader.toStrict.outcome source =
          if next.offset = source.size then .ok (.matched value next)
          else .ok (.failed ⟨endOfInputLabel, next⟩)) ∧
      ∀ (text trailing : String) (value : Value), reader.toStrict.read text = .ok value →
        reader.isTooLarge (Source.ofString (text ++ trailing)) = false →
          value.isCall = true ∨ NumberEnds trailing.toList →
            (∃ next,
              reader.toPermissive.outcome (Source.ofString (text ++ trailing)) =
                  .ok (.matched value next) ∧
                next.offset = text.length) ∧
              reader.toPermissive.read (text ++ trailing) = .ok value ∧
              nestingDepth (text ++ trailing).toList = nestingDepth text.toList := by
  refine ⟨?_, ?_, ?_, ?_⟩
  · intro source fault
    exact ⟨reader.toStrict.outcome_eq_error_iff source fault,
      reader.toPermissive.outcome_eq_error_iff source fault⟩
  · intro source failure failed
    rw [reader.outcome_toStrict, failed]
    rfl
  · intro source value next matched
    rw [reader.outcome_toStrict, matched, Except.map, Outcome.spanning]
    split <;> rfl
  · intro text trailing value read small stops
    obtain ⟨limits, derivation, text_eq, rfl⟩ := (reader.read_toStrict_iff text value).mp read
    have chars_eq : (text ++ trailing).toList = derivation.text ++ trailing.toList := by
      rw [String.toList_append, text_eq]
    have shallow := (Reader.checkLimits_eq_ok_iff.mp limits).2
    rw [Reader.isTooDeep, decide_eq_false_iff_not, Int.not_lt] at shallow
    have matched :=
      Reader.outcome_append_trailing derivation stops chars_eq small (text_eq ▸ shallow)
    refine ⟨⟨_, matched, ?_⟩, Reader.read_of_outcome matched, ?_⟩
    · have size_eq : (Source.ofString (text ++ trailing)).size = text.length + trailing.length := by
        rw [Source.ofString, Source.size_ofList, String.length_toList, String.length_append]
      simp only [Cursor.offset_forward, Cursor.start, size_eq, text_eq, String.length_toList]
      omega
    · rw [chars_eq, nestingDepth_append_trailing derivation stops, text_eq]

/-- Parentheses behind a call and letters behind a number are ignored. -/
theorem trailing_text_of_small_expressions :
    let one : Literal := ⟨none, ['1'], none, nofun, by decide, rfl, nofun⟩
    let call : Value := .call "f" [.number one.number]
    let reader := Reader.configure false none (some 1)
    reader.toStrict.read "f(1)" = .ok call ∧ reader.toStrict.read "1" = .ok (.number one.number) ∧
      reader.toPermissive.read ("f(1)" ++ ")((g(h(") = .ok call ∧
      nestingDepth ("f(1)" ++ ")((g(h(").toList = nestingDepth "f(1)".toList ∧
      reader.toPermissive.read ("1" ++ "g(h(") = .ok (.number one.number) := by
  intro one call reader
  let number : Derivation (.once .expression) := .ofNumber (.numberLiteral one)
  let derivation : Derivation (.once .expression) :=
    .ofCall (.call (.identifier ⟨'f', [], rfl, rfl⟩)
      (.someArguments (.argumentList number .noMore)))
  have within (text : String)
      (small : reader.isTooLarge (Source.ofString text) = false ∧
        reader.isTooDeep (Source.ofString text) = false) :
      reader.checkLimits (Source.ofString text) = .ok () :=
    Reader.checkLimits_eq_ok_iff.mpr small
  have readCall : reader.toStrict.read "f(1)" = .ok call :=
    (reader.read_toStrict_iff _ _).mpr ⟨within _ (by decide +kernel), derivation, by decide, rfl⟩
  have readNumber : reader.toStrict.read "1" = .ok (.number one.number) :=
    (reader.read_toStrict_iff _ _).mpr ⟨within _ (by decide +kernel), number, by decide, rfl⟩
  obtain ⟨-, -, -, ignored⟩ := strictness_and_trailing_text reader
  obtain ⟨-, again, depth_eq⟩ := ignored "f(1)" ")((g(h(" call readCall (by decide) (.inl rfl)
  have ends : NumberEnds "g(h(".toList := by
    rintro character ⟨rfl⟩
    decide
  obtain ⟨-, numberAgain, -⟩ := ignored "1" "g(h(" _ readNumber (by decide) (.inr ends)
  exact ⟨readCall, readNumber, again, depth_eq, numberAgain⟩

end Call
end Descent
