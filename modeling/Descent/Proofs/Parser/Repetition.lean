import Descent.Proofs.Parser.Termination

/-!
# Repetitions

A repetition applies its body again and again, each time where the last application ended.  If the
body answers everywhere and does not go back, the repetition comes to an end, and it is maximal: at
its end the body fails, or it matches without taking text.  An application that takes no text is the
last one and its value is kept; a failure is discarded.
-/

namespace Descent
namespace Parser

/-! ## Applications in a row -/

/-- Applications one after another, all of which take text, with their values in order. -/
inductive Applied (answer : Cursor → Except Fault Outcome) : Cursor → List Value → Cursor → Prop
  where
  | nothing (cursor : Cursor) : Applied answer cursor [] cursor
  | taking {cursor next last : Cursor} {value : Value} {values : List Value}
      (matched : answer cursor = .ok (.matched value next))
      (moved : cursor.offset < next.offset) (others : Applied answer next values last) :
      Applied answer cursor (value :: values) last

/-- No further application takes text: it fails, or it matches and adds one last value. -/
inductive Exhausted (answer : Cursor → Except Fault Outcome) (last : Cursor) : List Value → Prop
  where
  | failed {failure : Failure} (answered : answer last = .ok (.failed failure)) :
      Exhausted answer last []
  | rested {value : Value} (answered : answer last = .ok (.matched value last)) :
      Exhausted answer last [value]

variable {answer : Cursor → Except Fault Outcome} {cursor last : Cursor}
  {values others : List Value}

/-- Each application in a row takes one character at least. -/
theorem Applied.length_add_le (applied : Applied answer cursor values last) :
    values.length + cursor.offset ≤ last.offset := by
  induction applied with
  | nothing => simp
  | taking _ moved _ induction =>
      rw [List.length_cons]
      omega

theorem Applied.precedes
    (forward : ∀ cursor value next, answer cursor = .ok (.matched value next) →
      cursor.Precedes next)
    (applied : Applied answer cursor values last) : cursor.Precedes last := by
  induction applied with
  | nothing cursor => exact .refl cursor
  | taking matched _ _ induction => exact (forward _ _ _ matched).trans induction

/-- No application that takes text follows on the last one. -/
theorem Exhausted.eq_of_applied (exhausted : Exhausted answer cursor others)
    (applied : Applied answer cursor values last) : values = [] ∧ last = cursor := by
  cases applied with
  | nothing => exact ⟨rfl, rfl⟩
  | taking matched moved =>
      cases exhausted with
      | failed answered =>
          rw [answered] at matched
          cases matched
      | rested answered =>
          rw [answered] at matched
          cases matched
          exact absurd moved (Nat.lt_irrefl _)

theorem Exhausted.unique (exhausted : Exhausted answer last values)
    (again : Exhausted answer last others) : values = others := by
  cases exhausted with
  | failed answered =>
      cases again with
      | failed => rfl
      | rested matched => cases answered.symm.trans matched
  | rested answered =>
      cases again with
      | failed failed => cases answered.symm.trans failed
      | rested matched =>
          cases answered.symm.trans matched
          rfl

/-! ## The loop -/

/--
With more attempts than characters left, the loop comes to a position where the body is exhausted,
and adds the values of all applications to those that it has.
-/
theorem exists_applied_of_manyFrom {action : Action} {bound : Nat} (values : List Value)
    (session : Session)
    (answers : ∀ next, cursor.Precedes next → ∀ session, (action next session).1 = answer next)
    (returns : ∀ cursor, ∃ outcome, answer cursor = .ok outcome)
    (forward : ∀ cursor value next, answer cursor = .ok (.matched value next) →
      cursor.Precedes next)
    (room : cursor.remaining < bound) :
    ∃ taken rest last, Applied answer cursor taken last ∧ Exhausted answer last rest ∧
      (Action.manyFrom action bound values cursor session).1 =
        .ok (.matched (.tuple (values.reverse ++ (taken ++ rest))) last) := by
  induction bound generalizing cursor values session with
  | zero => exact absurd room (Nat.not_lt_zero _)
  | succ bound induction =>
      have answered := answers cursor (.refl cursor) session
      simp only [Action.manyFrom]
      rcases ran : action cursor session with ⟨fault | ⟨value, next⟩ | failure, after⟩ <;>
        rw [ran] at answered
      · obtain ⟨outcome, returned⟩ := returns cursor
        cases answered.trans returned
      · have ahead := forward _ _ _ answered.symm
        -- A match that took no text ends the loop, any other one leaves fewer characters.
        by_cases moved : next.offset = cursor.offset
        · have next_eq : next = cursor := ahead.antisymm (Nat.le_of_eq moved)
          refine ⟨[], [value], cursor, .nothing cursor, .rested ?_, ?_⟩
          · rw [← answered, next_eq]
          · simp [moved]
        · have shorter := ahead.remaining_lt fun same => moved (by rw [same])
          obtain ⟨taken, rest, last, applied, exhausted, ran⟩ := induction (value :: values) after
            (fun later behind => answers later (ahead.trans behind)) (by omega)
          have further : cursor.offset < next.offset :=
            Nat.lt_of_le_of_ne ahead.offset_le (Ne.symm moved)
          refine ⟨value :: taken, rest, last, .taking answered.symm further applied, exhausted, ?_⟩
          simp only [moved, if_false, ran, List.reverse_cons, List.append_assoc, List.cons_append,
            List.nil_append]
      · exact ⟨[], [], cursor, .nothing cursor, .failed answered.symm, by simp⟩

/-! ## Bodies -/

/-- A parser answers at every position, and its matches do not go back. -/
structure IsRepeatable (environment : Environment) (body : Parser) : Prop where
  answers (cursor : Cursor) : ∃ outcome, body.outcomeAt environment cursor = .ok outcome
  forward (cursor : Cursor) (value : Value) (next : Cursor)
    (matched : body.outcomeAt environment cursor = .ok (.matched value next)) :
    cursor.Precedes next

variable {environment : Environment} {body : Parser}

/-- Without left recursion, a parser of the library answers everywhere and does not go back. -/
theorem isRepeatable_of_isPlain (acyclic : ¬ IsLeftRecursive environment)
    (plain : body.IsPlain environment) (buildable : body.IsBuildable environment)
    (defined : ∀ name, Occurs environment (rule name) body →
      environment.rules.lookup name ≠ none) :
    body.IsRepeatable environment where
  answers cursor := by
    obtain ⟨depth, ends⟩ := endsBelow acyclic (cursor.remaining + 1) plain buildable
    have ended : (runWithin environment depth body cursor .fresh).1 ≠ .error .unbounded :=
      fun cut => ends cursor (Nat.lt_succ_self _) ⟨.fresh, cut⟩
    rcases answered : body.outcomeAt environment cursor with fault | outcome
    · rcases raises_of_runWithin answered with _ | ⟨occurs, absent⟩ | occurs | ⟨occurs, -⟩
      · rw [← run_eq_of_ended plain.isForward ended] at ended
        exact absurd answered ended
      · exact absurd absent (defined _ occurs)
      · exact absurd occurs (buildable _ _ _ _)
      · exact absurd occurs (plain _)
    · exact ⟨outcome, rfl⟩
  forward cursor value next matched :=
    plain.isForward.goesForward _ cursor .fresh value next _ (Prod.ext matched rfl)

/-- The depth that a repetition is given is enough for its body, wherever it is applied. -/
theorem exists_depth_many (environment : Environment) (body : Parser) (cursor : Cursor) :
    ∃ depth, sufficientDepth environment (many body) cursor = depth + 1 ∧
      ∀ next, cursor.Precedes next → sufficientDepth environment body next ≤ depth := by
  have size : environment.weight + (many body).weight + 1 =
      environment.weight + body.weight + 1 + 1 := by
    simp only [weight]
    omega
  -- The node of the repetition adds one level for each character, and one of them is taken off.
  refine ⟨(cursor.remaining + 1) * (environment.weight + body.weight + 1) + cursor.remaining,
    ?_, fun next ahead => ?_⟩
  · rw [sufficientDepth, size, Nat.mul_succ]
    rfl
  · have shorter : next.remaining + 1 ≤ cursor.remaining + 1 := Nat.succ_le_succ ahead.remaining_le
    exact Nat.le_add_right_of_le (Nat.mul_le_mul_right _ shorter)

/-- The run of a repetition ends at a position where its body is exhausted. -/
theorem IsRepeatable.exists_applied (repeatable : body.IsRepeatable environment) (cursor : Cursor)
    (session : Session) :
    ∃ taken rest last, Applied (body.outcomeAt environment) cursor taken last ∧
      Exhausted (body.outcomeAt environment) last rest ∧
      ((many body).run environment cursor session).1 =
        .ok (.matched (.tuple (taken ++ rest)) last) := by
  obtain ⟨depth, depth_eq, enough⟩ := exists_depth_many environment body cursor
  have answers (next : Cursor) (ahead : cursor.Precedes next) (session : Session) :
      (runWithin environment depth body next session).1 = body.outcomeAt environment next := by
    obtain ⟨outcome, returned⟩ := repeatable.answers next
    have ended : body.outcomeAt environment next ≠ .error .unbounded := by
      rw [returned]
      nofun
    rw [isSteady_runWithin environment depth body next .fresh session,
      runWithin_deeper (enough next ahead) ended]
    rfl
  simp only [run, depth_eq, runWithin]
  exact exists_applied_of_manyFrom [] session answers repeatable.answers repeatable.forward
    (Nat.lt_succ_self _)

/-- A repetition may be repeated itself. -/
theorem IsRepeatable.many (repeatable : body.IsRepeatable environment) :
    (many body).IsRepeatable environment where
  answers cursor := by
    obtain ⟨taken, rest, last, -, -, ran⟩ := repeatable.exists_applied cursor .fresh
    exact ⟨_, ran⟩
  forward cursor value next matched := by
    obtain ⟨taken, rest, last, applied, -, ran⟩ := repeatable.exists_applied cursor .fresh
    cases matched.symm.trans ran
    exact applied.precedes repeatable.forward

/-! ## Repetition -/

/--
Repetition is maximal and comes to an end.  Let a body answer everywhere and not go back, as all
parsers of the library do whose rules are defined and not left-recursive.  At every position its
repetition matches, with the values of applications one after another, each of which takes text, and
ends where the last of them does.  There the body fails, or it matches without taking text, and that
one value is added.  So there are no more values than characters left and one, and a repetition
started at the end takes nothing.  Repetitions of repetitions are covered, too.
-/
theorem repetition_is_maximal {environment : Environment} {body : Parser} :
    (¬ IsLeftRecursive environment → body.IsPlain environment → body.IsBuildable environment →
      (∀ name, Occurs environment (rule name) body → environment.rules.lookup name ≠ none) →
        body.IsRepeatable environment) ∧
    (body.IsRepeatable environment →
      (many body).IsRepeatable environment ∧
      ∀ cursor session, ∃ taken rest last,
        Applied (body.outcomeAt environment) cursor taken last ∧
        Exhausted (body.outcomeAt environment) last rest ∧
        ((many body).run environment cursor session).1 =
          .ok (.matched (.tuple (taken ++ rest)) last) ∧
        (taken ++ rest).length ≤ cursor.remaining + 1 ∧
        ∀ other, ((many body).run environment last other).1 =
          .ok (.matched (.tuple rest) last)) := by
  refine ⟨isRepeatable_of_isPlain, fun repeatable => ⟨repeatable.many, fun cursor session => ?_⟩⟩
  obtain ⟨taken, rest, last, applied, exhausted, ran⟩ := repeatable.exists_applied cursor session
  refine ⟨taken, rest, last, applied, exhausted, ran, ?_, fun other => ?_⟩
  · have length_le := applied.length_add_le
    have ahead := applied.precedes repeatable.forward
    have bound := last.offset_le
    rw [ahead.source_eq] at bound
    rw [List.length_append, Cursor.remaining]
    cases exhausted <;> simp only [List.length_nil, List.length_singleton] <;> omega
  · obtain ⟨more, added, final, applied, again, ran⟩ := repeatable.exists_applied last other
    obtain ⟨rfl, rfl⟩ := exhausted.eq_of_applied applied
    rw [ran, exhausted.unique again, List.nil_append]

/-- Over no rules, nothing is left-recursive. -/
theorem not_isLeftRecursive_empty : ¬ IsLeftRecursive .empty := by
  rintro ⟨name, circle⟩
  obtain ⟨_, ⟨defined, -⟩, -⟩ := Relation.TransGen.head'_iff.mp circle
  exact defined rfl

/-- The outer repetition reads the letters once, and keeps one empty tuple behind them. -/
theorem repeated_repetition_on_letters :
    let letters := many (literal "a" (by decide))
    let start := Cursor.start ⟨['a', 'a', 'b'], 3, rfl⟩
    let pair := Value.tuple [.text "a", .text "a"]
    (¬ IsLeftRecursive .empty ∧ letters.IsPlain .empty ∧ letters.IsBuildable .empty ∧
      ∀ name, ¬ Occurs .empty (rule name) letters) ∧
    letters.IsRepeatable .empty ∧
    ((many letters).run .empty start .fresh).1 =
      .ok (.matched (.tuple [pair, .tuple []]) (start.forward 2)) ∧
    ∀ other, ((many letters).run .empty (start.forward 2) other).1 =
      .ok (.matched (.tuple [.tuple []]) (start.forward 2)) := by
  intro letters start pair
  have plain : letters.IsPlain .empty := isPlain_of_terms (by decide) (by decide)
  have buildable : letters.IsBuildable .empty := by
    simp [IsBuildable, letters, occurs_many, occurs_literal]
  have noReference (name : String) : ¬ Occurs .empty (rule name) letters := by
    simp [letters, occurs_many, occurs_literal]
  have repeatable := repetition_is_maximal.1 not_isLeftRecursive_empty plain buildable
    fun name occurs => absurd occurs (noReference name)
  have ran : ((many letters).run .empty start .fresh).1 =
      .ok (.matched (.tuple [pair, .tuple []]) (start.forward 2)) := rfl
  refine ⟨⟨not_isLeftRecursive_empty, plain, buildable, noReference⟩, repeatable, ran,
    fun other => ?_⟩
  obtain ⟨taken, rest, last, -, -, again, -, rested⟩ :=
    (repetition_is_maximal.2 repeatable).2 start .fresh
  obtain ⟨-, last_eq⟩ := Outcome.matched.inj (Except.ok.inj (ran.symm.trans again))
  subst last_eq
  have rest_eq : ((many letters).run .empty (start.forward 2) .fresh).1 =
      .ok (.matched (.tuple [.tuple []]) (start.forward 2)) := rfl
  rw [rested other, ← rested .fresh, rest_eq]

end Parser
end Descent
