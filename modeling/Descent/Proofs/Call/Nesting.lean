import Descent.Proofs.Call.Reading

/-!
# The scan for the nesting depth agrees with the grammar

At every point of an attempt the scan has the same calls open as the run of the grammar.  It goes
on behind a complete expression as the enclosing call does, and behind a broken one it stops with
the greatest number of open calls that the attempt reached.
-/

namespace Descent
namespace Call

open Scan

/-- The greatest number of open calls after a step of the scan. -/
def Scan.Step.answer : Scan.Step → Nat
  | done deepest => deepest
  | expression scan => scan.run

/-- The answer behind a complete expression: the scan is over if no call is open. -/
def answerBehind (deepest depth : Nat) (rest : List Char) : Nat :=
  if depth = 0 then deepest else (close deepest depth rest).answer

/-- The answer behind the arguments of a call: the scan is over if the call is not closed there. -/
def answerBehindArguments (deepest depth : Nat) (rest : List Char) : Nat :=
  if rest.head? = some ')' then (close deepest depth rest).answer else deepest

variable {depth deepest height furtherHeight : Nat} {text rest after : List Char}

/-! ## Steps of the scan -/

theorem run_eq_answer (scan : Scan) : scan.run = scan.step.answer := by
  rw [run]
  split
  · rename_i deepest stepped
    rw [stepped, Step.answer]
  · rename_i next stepped
    change next.run = scan.step.answer
    rw [stepped, Step.answer]

theorem matchEnd?_of_split? {name : Identifier}
    (split : Identifier.split? text = some (name, rest)) :
    ∃ stop, identifierPattern.matchEnd? 0 text = some stop ∧ text.drop stop = rest := by
  refine ⟨0 + name.text.length, ?_, ?_⟩
  · rw [matchEnd?_identifierPattern, split, Option.map_some]
  · rw [Nat.zero_add, (Identifier.eq_append_of_split? split).1, List.drop_left]

theorem run_of_opened {name : Identifier}
    (split : Identifier.split? text = some (name, '(' :: rest)) :
    Scan.run ⟨depth, deepest, text⟩ =
      (enter ⟨depth + 1, max deepest (depth + 1), rest⟩).answer := by
  obtain ⟨stop, target, behind⟩ := matchEnd?_of_split? split
  rw [run_eq_answer, step]
  simp only [target, behind, if_true]

theorem run_of_notOpened {name : Identifier} (split : Identifier.split? text = some (name, rest))
    (head : rest.head? ≠ some '(') : Scan.run ⟨depth, deepest, text⟩ = deepest := by
  obtain ⟨stop, target, behind⟩ := matchEnd?_of_split? split
  rw [run_eq_answer, step]
  simp only [target, behind]
  cases rest with
  | nil => rfl
  | cons character rest =>
      rw [List.head?_cons, ne_eq, Option.some_inj] at head
      simp only [if_neg head, Step.answer]

theorem run_of_number {literal : Literal} (noTarget : Identifier.split? text = none)
    (split : Literal.split? text = some (literal, rest)) :
    Scan.run ⟨depth, deepest, text⟩ = answerBehind deepest depth rest := by
  have behind : text.drop (0 + literal.text.length) = rest := by
    rw [Nat.zero_add, Literal.eq_append_of_split? split, List.drop_left]
  rw [run_eq_answer, step, matchEnd?_identifierPattern, noTarget, Option.map_none]
  simp only [matchEnd?_numberPattern, split, Option.map_some, behind]
  rw [answerBehind]
  split <;> rfl

theorem run_of_neither (noTarget : Identifier.split? text = none)
    (noNumber : Literal.split? text = none) :
    Scan.run ⟨depth, deepest, text⟩ = deepest := by
  rw [run_eq_answer, step, matchEnd?_identifierPattern, noTarget, Option.map_none]
  simp only [matchEnd?_numberPattern, noNumber, Option.map_none]
  rfl

/-- A closing parenthesis ends the innermost call. -/
theorem answer_close_closing (deepest depth : Nat) (rest : List Char) :
    (close deepest (depth + 1) (')' :: rest)).answer = answerBehind deepest depth rest := by
  rw [close, if_pos rfl, answerBehind]
  by_cases outermost : depth = 0
  · simp [outermost, Step.answer]
  · rw [if_neg (by omega), if_neg outermost, Nat.add_sub_cancel]

theorem answerBehindArguments_closing (deepest depth : Nat) (rest : List Char) :
    answerBehindArguments deepest (depth + 1) (')' :: rest) = answerBehind deepest depth rest := by
  rw [answerBehindArguments, List.head?_cons, if_pos rfl, answer_close_closing]

theorem answer_close_comma (deepest depth : Nat) (rest : List Char) :
    (close deepest depth (',' :: rest)).answer = Scan.run ⟨depth, deepest, rest⟩ := rfl

theorem answer_close_of_ne (noClosing : text.head? ≠ some ')') (noComma : text.head? ≠ some ',') :
    (close deepest depth text).answer = deepest := by
  cases text with
  | nil => rfl
  | cons character rest =>
      rw [List.head?_cons, ne_eq, Option.some_inj] at noClosing noComma
      rw [close, if_neg noClosing, if_neg noComma, Step.answer]

/-! ## What the scan makes of an attempt -/

/-- The answer of the scan from the beginning of an attempt, for any calls open before it. -/
def Scanned (text : List Char) (height depth deepest : Nat) :
    {phrase : Phrase} → Ending phrase → Prop
  | .once .call, .complete call =>
      ∀ rest, text = call.text ++ rest →
        Scan.run ⟨depth, deepest, text⟩ = answerBehind (max deepest (depth + height)) depth rest
  | .once .call, .broken _ _ =>
      Identifier.split? text ≠ none →
        Scan.run ⟨depth, deepest, text⟩ = max deepest (depth + height)
  | .once .expression, .complete expression =>
      ∀ rest, text = expression.text ++ rest →
        Scan.run ⟨depth, deepest, text⟩ = answerBehind (max deepest (depth + height)) depth rest
  | .once .expression, .broken _ _ =>
      Scan.run ⟨depth, deepest, text⟩ = max deepest (depth + height)
  | .once .argumentList, .complete list =>
      ∀ rest, text = list.text ++ rest → 0 < depth →
        Scan.run ⟨depth, deepest, text⟩ =
          answerBehindArguments (max deepest (depth + height)) depth rest
  | .once .argumentList, .broken _ _ =>
      Scan.run ⟨depth, deepest, text⟩ = max deepest (depth + height)
  | .once .trailingArgument, .complete argument =>
      ∀ rest, text = argument.text ++ rest → 0 < depth →
        (close deepest depth text).answer =
          (close (max deepest (depth + height)) depth rest).answer
  | .once .trailingArgument, .broken _ _ =>
      text.head? ≠ some ')' → (close deepest depth text).answer = max deepest (depth + height)
  | .optionalArguments, .complete arguments =>
      ∀ rest, text = arguments.text ++ rest → 0 < depth →
        (enter ⟨depth, deepest, text⟩).answer =
          answerBehindArguments (max deepest (depth + height)) depth rest
  | .trailingArguments, .complete others =>
      ∀ rest, text = others.text ++ rest → 0 < depth →
        (close deepest depth text).answer =
          answerBehindArguments (max deepest (depth + height)) depth rest
  | _, _ => True

/-! ## One lemma for each kind of attempt -/

theorem scanned_call {name : Identifier} {arguments : Derivation .optionalArguments}
    (split : Identifier.split? text = some (name, '(' :: rest))
    (rest_eq : rest = arguments.text ++ ')' :: after)
    (inside : ∀ depth deepest, depth ≤ deepest →
      Scanned rest height depth deepest (Ending.complete arguments))
    (below : depth ≤ deepest) :
    Scanned text (height + 1) depth deepest
      (Ending.complete (Derivation.call (.identifier name) arguments)) := by
  intro behind text_eq
  have behind_eq : after = behind := by
    rw [(Identifier.eq_append_of_split? split).1, rest_eq] at text_eq
    simpa [Derivation.text] using text_eq
  have inner := inside (depth + 1) (max deepest (depth + 1)) (Nat.le_max_right _ _) _ rest_eq
    (Nat.succ_pos depth)
  rw [run_of_opened split, inner, answerBehindArguments_closing, behind_eq]
  congr 1
  omega

theorem scanned_notClosed {name : Identifier} {arguments : Derivation .optionalArguments}
    (split : Identifier.split? text = some (name, '(' :: rest))
    (rest_eq : rest = arguments.text ++ after) (head : after.head? ≠ some ')')
    (inside : ∀ depth deepest, depth ≤ deepest →
      Scanned rest height depth deepest (Ending.complete arguments))
    (below : depth ≤ deepest) :
    Scan.run ⟨depth, deepest, text⟩ = max deepest (depth + (height + 1)) := by
  have inner := inside (depth + 1) (max deepest (depth + 1)) (Nat.le_max_right _ _) _ rest_eq
    (Nat.succ_pos depth)
  rw [run_of_opened split, inner, answerBehindArguments, if_neg head]
  omega

/-- Nothing stands in front of a parenthesis that closes a call at once. -/
theorem absent_of_closing {arguments : Derivation .optionalArguments}
    (attempt : Attempt .optionalArguments text (.complete arguments) height)
    (closing : text.head? = some ')') : arguments = .noArguments ∧ height = 0 := by
  have absent : Attempt .optionalArguments text (.complete .noArguments) 0 := by
    obtain ⟨rest, rfl⟩ := List.head?_eq_some_iff.mp closing
    exact Attempt.noArguments_of_beginsIn (beginsIn_cons List.mem_cons_self rest)
  obtain ⟨⟨rfl⟩, rfl⟩ := attempt.unique absent
  exact ⟨rfl, rfl⟩

/-- A scan that is not closed at once reads the arguments as an expression. -/
theorem answer_enter_of_ne (noClosing : text.head? ≠ some ')') :
    (enter ⟨depth, deepest, text⟩).answer = Scan.run ⟨depth, deepest, text⟩ := by
  rw [enter, if_neg noClosing, Step.answer]

theorem answer_enter_of_closing (closing : text.head? = some ')') :
    (enter ⟨depth, deepest, text⟩).answer = (close deepest depth text).answer := by
  rw [enter, if_pos closing]

theorem scanned_ofNumber {literal : Literal} {label : String} {taken : List Char}
    (noCall : Attempt (.once .call) text (.broken label taken) height)
    (split : Literal.split? text = some (literal, rest)) (below : depth ≤ deepest) :
    Scanned text (max height 0) depth deepest
      (Ending.complete (Derivation.ofNumber (.numberLiteral literal))) := by
  intro behind text_eq
  have literal_eq := Literal.eq_append_of_split? split
  have noLetter := headFails_literal literal rest
  rw [← literal_eq] at noLetter
  have noTarget := (Identifier.split?_eq_none_iff text).mpr noLetter
  obtain ⟨-, rfl⟩ := noCall.unique (.noTarget noTarget)
  obtain rfl : rest = behind := List.append_cancel_left (literal_eq.symm.trans text_eq)
  rw [run_of_number noTarget split]
  congr 1
  omega

theorem scanned_noExpression {label : String} {taken : List Char}
    (noCall : Attempt (.once .call) text (.broken label taken) height)
    (noLiteral : Literal.split? text = none)
    (inside : Scanned text height depth deepest (Ending.broken label taken : Ending (.once .call)))
    (below : depth ≤ deepest) :
    Scan.run ⟨depth, deepest, text⟩ = max deepest (depth + max height 0) := by
  rw [Nat.max_zero]
  cases split : Identifier.split? text with
  | none =>
      obtain ⟨-, rfl⟩ := noCall.unique (.noTarget split)
      rw [run_of_neither split noLiteral]
      omega
  | some parts => exact inside (by simp [split])

theorem scanned_argumentList {first : Derivation (.once .expression)}
    {others : Derivation .trailingArguments} (text_eq : text = first.text ++ rest)
    (inside : Scanned text height depth deepest (Ending.complete first))
    (further : ∀ deepest, depth ≤ deepest →
      Scanned rest furtherHeight depth deepest (Ending.complete others))
    (below : depth ≤ deepest) :
    Scanned text (max height furtherHeight) depth deepest
      (Ending.complete (Derivation.argumentList first others)) := by
  intro behind list_eq positive
  have others_eq := rest_eq_of_list text_eq list_eq
  rw [inside rest text_eq, answerBehind, if_neg (by omega),
    further _ (by omega) behind others_eq positive]
  congr 1
  omega

theorem scanned_more {first : Derivation (.once .trailingArgument)}
    {others : Derivation .trailingArguments} (text_eq : text = first.text ++ rest)
    (inside : Scanned text height depth deepest (Ending.complete first))
    (further : ∀ deepest, depth ≤ deepest →
      Scanned rest furtherHeight depth deepest (Ending.complete others))
    (below : depth ≤ deepest) :
    Scanned text (max height furtherHeight) depth deepest
      (Ending.complete (Derivation.more first others)) := by
  intro behind list_eq positive
  have others_eq := rest_eq_of_list text_eq list_eq
  rw [inside rest text_eq positive, further _ (by omega) behind others_eq positive]
  congr 1
  omega

/-- Where no further argument comes, the call is closed or the scan is over. -/
theorem scanned_noMore {label : String} {taken : List Char}
    (attempt : Attempt (.once .trailingArgument) text (.broken label taken) height)
    (inside : Scanned text height depth deepest
      (Ending.broken label taken : Ending (.once .trailingArgument)))
    (below : depth ≤ deepest) :
    Scanned text height depth deepest (Ending.complete Derivation.noMore) := by
  rintro _ rfl _
  rw [answerBehindArguments]
  split
  · rename_i closing
    cases attempt with
    | noComma _ => rw [Nat.add_zero, Nat.max_eq_left below]
    | noArgument _ => simp at closing
  · rename_i noClosing
    exact inside noClosing

theorem scanned_noArguments {label : String} {taken : List Char}
    (attempt : Attempt (.once .argumentList) text (.broken label taken) height)
    (inside : Scanned text height depth deepest
      (Ending.broken label taken : Ending (.once .argumentList)))
    (below : depth ≤ deepest) :
    Scanned text height depth deepest (Ending.complete Derivation.noArguments) := by
  rintro _ rfl _
  rw [answerBehindArguments]
  split
  · rename_i closing
    obtain ⟨-, rfl⟩ := absent_of_closing (.noArguments attempt) closing
    rw [answer_enter_of_closing closing, Nat.add_zero, Nat.max_eq_left below]
  · rename_i noClosing
    rw [answer_enter_of_ne noClosing]
    exact inside

theorem scanned_someArguments {list : Derivation (.once .argumentList)}
    (attempt : Attempt (.once .argumentList) text (.complete list) height)
    (inside : Scanned text height depth deepest (Ending.complete list)) :
    Scanned text height depth deepest (Ending.complete (Derivation.someArguments list)) := by
  intro behind text_eq positive
  have noClosing : text.head? ≠ some ')' := by
    intro closing
    have absent := (absent_of_closing (.someArguments attempt) closing).1
    contradiction
  rw [answer_enter_of_ne noClosing]
  exact inside behind text_eq positive

/-- The scan does what an attempt says, for any calls that are open before it. -/
theorem Attempt.scanned {phrase : Phrase} {text : List Char} {ending : Ending phrase}
    {height : Nat} (attempt : Attempt phrase text ending height) :
    ∀ depth deepest, depth ≤ deepest → Scanned text height depth deepest ending := by
  induction attempt with
  | call split _ rest_eq induction =>
      intro depth deepest below
      exact scanned_call split rest_eq induction below
  | noTarget split =>
      intro depth deepest _ target
      exact absurd split target
  | notOpened split head =>
      intro depth deepest below _
      rw [run_of_notOpened split head]
      omega
  | notClosed split _ rest_eq head induction =>
      intro depth deepest below _
      exact scanned_notClosed split rest_eq head induction below
  | ofCall _ induction => exact induction
  | ofNumber noCall attempt _ _ =>
      intro depth deepest below
      cases attempt with
      | numberLiteral split => exact scanned_ofNumber noCall split below
  | noExpression noCall noNumber induction _ =>
      intro depth deepest below
      cases noNumber with
      | noNumber split => exact scanned_noExpression noCall split (induction _ _ below) below
  | trailingArgument _ induction =>
      intro depth deepest below behind text_eq positive
      have inside := induction depth deepest below behind (List.cons.inj text_eq).2
      rw [answer_close_comma, inside, answerBehind, if_neg (by omega)]
  | noArgument _ induction =>
      intro depth deepest below _
      rw [answer_close_comma]
      exact induction depth deepest below
  | noComma head =>
      intro depth deepest below noClosing
      rw [answer_close_of_ne noClosing head]
      omega
  | argumentList _ text_eq _ induction furtherInduction =>
      intro depth deepest below
      exact scanned_argumentList text_eq (induction _ _ below) (furtherInduction depth) below
  | noFirst _ induction => exact induction
  | noMore attempt induction =>
      intro depth deepest below
      exact scanned_noMore attempt (induction _ _ below) below
  | more _ text_eq _ induction furtherInduction =>
      intro depth deepest below
      exact scanned_more text_eq (induction _ _ below) (furtherInduction depth) below
  | noArguments attempt induction =>
      intro depth deepest below
      exact scanned_noArguments attempt (induction _ _ below) below
  | someArguments attempt induction =>
      intro depth deepest below
      exact scanned_someArguments attempt (induction _ _ below)
  | identifier _ | noIdentifier _ | numberLiteral _ | noNumber _ =>
      intro depth deepest _
      trivial

/-- The scan of a source finds the height of the attempt at an expression. -/
theorem nestingDepth_eq_height {ending : Ending (.once .expression)}
    (attempt : Attempt (.once .expression) text ending height) : nestingDepth text = height := by
  have scanned := attempt.scanned 0 0 (Nat.le_refl 0)
  cases ending with
  | complete derivation =>
      obtain ⟨rest, text_eq⟩ := attempt.exists_rest
      rw [nestingDepth, scanned rest text_eq, answerBehind, if_pos rfl]
      omega
  | broken label taken =>
      change nestingDepth text = _ at scanned
      omega

/-! ## Depths of values -/

mutual

/-- The call depth of a value: none for a number, one more than any argument for a call. -/
def callDepth : Value → Nat
  | .call _ arguments => callDepthAll arguments + 1
  | _ => 0

/-- The greatest call depth of some values. -/
def callDepthAll : List Value → Nat
  | [] => 0
  | value :: values => max (callDepth value) (callDepthAll values)

end

theorem callDepthAll_append (values others : List Value) :
    callDepthAll (values ++ others) = max (callDepthAll values) (callDepthAll others) := by
  induction values with
  | nil => simp [callDepthAll]
  | cons value values induction => rw [List.cons_append, callDepthAll, callDepthAll, induction,
      Nat.max_assoc]

/-- A derivation is as deep as the values that it denotes. -/
theorem Derivation.callDepthAll_values : ∀ {phrase : Phrase} (derivation : Derivation phrase),
    callDepthAll derivation.values = derivation.depth
  | _, identifier _ => rfl
  | _, numberLiteral _ => rfl
  | _, trailingArgument argument => argument.callDepthAll_values
  | _, argumentList first others => by
      rw [values, callDepthAll_append, first.callDepthAll_values, others.callDepthAll_values, depth]
  | _, call _ arguments => by
      rw [values, callDepthAll, callDepth, arguments.callDepthAll_values, depth, callDepthAll,
        Nat.max_zero]
  | _, ofCall inner => inner.callDepthAll_values
  | _, ofNumber (.numberLiteral _) => rfl
  | _, noArguments => rfl
  | _, someArguments arguments => arguments.callDepthAll_values
  | _, noMore => rfl
  | _, more first others => by
      rw [values, callDepthAll_append, first.callDepthAll_values, others.callDepthAll_values, depth]

theorem Derivation.callDepth_value (derivation : Derivation (.once .expression)) :
    callDepth derivation.value = derivation.depth := by
  rw [← derivation.callDepthAll_values, derivation.values_eq_singleton (by decide), callDepthAll,
    callDepthAll, Nat.max_zero]

/-! ## Limits -/

/-- The scan finds what the runs of all readers have open, refused sources included. -/
theorem Reader.openDepth_eq (reader : Reader) (source : Source) :
    openDepth reader.parser (Cursor.start source) = nestingDepth source.chars := by
  obtain ⟨ending, height, attempt⟩ := Attempt.attempted (.once .expression) source.chars
  have answers : _ ∧ openDepth reader.parser (Cursor.start source) = height :=
    reader.parser_answers attempt
  rw [answers.2, nestingDepth_eq_height attempt]

/-- Within its limits a reader answers without a fault. -/
theorem Reader.exists_outcome {reader : Reader} {source : Source}
    (limits : reader.checkLimits source = .ok ()) :
    ∃ outcome, reader.outcome source = .ok outcome := by
  obtain ⟨ending, height, attempt⟩ := Attempt.attempted (.once .expression) source.chars
  exact ⟨_, Reader.outcome_eq limits attempt⟩

theorem Reader.depthLimit_iff {reader : Reader} {source : Source}
    (small : reader.isTooLarge source = false) :
    (∃ cause, reader.outcome source = .error (.depthLimit cause)) ↔
      reader.maxDepth < nestingDepth source.chars := by
  cases deep : reader.isTooDeep source with
  | true =>
      have refused := deep
      rw [Reader.isTooDeep, decide_eq_true_eq] at refused
      refine ⟨fun _ => refused, fun _ => ⟨.structured
        (Diagnostic.nestingDepthExceeded (nestingDepth source.chars) reader.maxDepth), ?_⟩⟩
      simp [Reader.outcome, Reader.checkLimits, small, deep]
  | false =>
      obtain ⟨outcome, answer⟩ :=
        Reader.exists_outcome (Reader.checkLimits_eq_ok_iff.mpr ⟨small, deep⟩)
      rw [Reader.isTooDeep, decide_eq_false_iff_not] at deep
      refine ⟨?_, fun refused => absurd refused deep⟩
      rintro ⟨cause, refused⟩
      rw [answer] at refused
      contradiction

theorem Reader.read_depthLimit_iff (reader : Reader) (text : String) :
    (∃ cause, reader.read text = .error (.depthLimit cause)) ↔
      ∃ cause, reader.outcome (Source.ofString text) = .error (.depthLimit cause) := by
  unfold Reader.read
  cases reader.outcome (Source.ofString text) with
  | error fault => simp
  | ok outcome => cases outcome <;> simp

/-- An expression that is read is as deep as the scan says. -/
theorem nestingDepth_eq_callDepth {source : Source} {value : Value} {next : Cursor}
    (matched : expression.outcomeAt environment (Cursor.start source) =
      .ok (.matched value next)) : nestingDepth source.chars = callDepth value := by
  obtain ⟨ending, height, attempt⟩ := Attempt.attempted (.once .expression) source.chars
  have answer : ruleOutcome Symbol.expression.rule (Cursor.start source) =
      .ok (ending.outcome (Cursor.start source)) := ruleOutcome_eq attempt
  change ruleOutcome Symbol.expression.rule (Cursor.start source) = _ at matched
  rw [answer] at matched
  cases ending with
  | broken label taken => simp [Ending.outcome] at matched
  | complete derivation =>
      obtain ⟨rfl, rfl⟩ := Outcome.matched.inj (Except.ok.inj matched)
      rw [nestingDepth_eq_height attempt, attempt.height_eq_depth]
      exact derivation.callDepth_value.symm

/--
The scan for the nesting depth agrees with the run of the grammar on every source: it finds the
greatest number of calls that are open at a time, which is the depth of the expression if one is
read.  So a reader refuses a source as too deep exactly if the run would open too many calls.
-/
theorem nestingDepth_agrees :
    (∀ source : Source,
        nestingDepth source.chars = openDepth expression (Cursor.start source)) ∧
      (∀ (source : Source) (value : Value) (next : Cursor),
        expression.outcomeAt environment (Cursor.start source) = .ok (.matched value next) →
          nestingDepth source.chars = callDepth value) ∧
      (∀ (reader : Reader) (source : Source), reader.isTooLarge source = false →
        ((∃ cause, reader.outcome source = .error (.depthLimit cause)) ↔
          reader.maxDepth < openDepth reader.parser (Cursor.start source))) ∧
      (∀ (reader : Reader) (text : String), reader.isTooLarge (Source.ofString text) = false →
        ((∃ cause, reader.read text = .error (.depthLimit cause)) ↔
          reader.maxDepth < openDepth reader.parser (Cursor.start (Source.ofString text)))) ∧
      ∀ (reader : Reader) (source : Source), reader.checkLimits source = .ok () →
        openDepth reader.parser (Cursor.start source) ≤ reader.maxDepth := by
  refine ⟨?_, fun _ _ _ matched => nestingDepth_eq_callDepth matched, ?_, ?_, ?_⟩
  · intro source
    exact (Reader.standard.openDepth_eq source).symm
  · intro reader source small
    rw [reader.openDepth_eq]
    exact Reader.depthLimit_iff small
  · intro reader text small
    rw [reader.openDepth_eq, reader.read_depthLimit_iff]
    exact Reader.depthLimit_iff small
  · intro reader source limits
    have shallow := (Reader.checkLimits_eq_ok_iff.mp limits).2
    rw [Reader.isTooDeep, decide_eq_false_iff_not, Int.not_lt] at shallow
    rwa [reader.openDepth_eq]

/-- Calls inside a call are refused with a limit of one, and read with a limit of two. -/
theorem nestingDepth_agrees_on_nested_calls :
    let source := Source.ofString "f(g(),h())"
    let shallow := Reader.configure false none (some 1)
    let deep := Reader.configure false none (some 2)
    nestingDepth source.chars = callDepth (.call "f" [.call "g" [], .call "h" []]) ∧
      ((∃ cause, shallow.outcome source = .error (.depthLimit cause)) ↔
        shallow.maxDepth < openDepth shallow.parser (Cursor.start source)) ∧
      ((∃ cause, shallow.read "f(g(),h())" = .error (.depthLimit cause)) ↔
        shallow.maxDepth < openDepth shallow.parser (Cursor.start source)) ∧
      openDepth deep.parser (Cursor.start source) ≤ deep.maxDepth := by
  intro source shallow deep
  obtain ⟨-, depthOfValue, refused, unread, opens⟩ := nestingDepth_agrees
  have small : shallow.isTooLarge source = false := by decide
  have limits : deep.checkLimits source = .ok () := by
    rw [Reader.checkLimits_eq_ok_iff]
    decide +kernel
  refine ⟨?_, refused shallow source small, unread shallow _ small, opens deep source limits⟩
  let inner (name : Char) (letter : isLetter name = true) : Derivation (.once .expression) :=
    .ofCall (.call (.identifier ⟨name, [], letter, rfl⟩) .noArguments)
  let derivation : Derivation (.once .expression) :=
    .ofCall (.call (.identifier ⟨'f', [], rfl, rfl⟩) (.someArguments
      (.argumentList (inner 'g' rfl) (.more (.trailingArgument (inner 'h' rfl)) .noMore))))
  have text_eq : (Cursor.start source).rest = derivation.text ++ [] := by decide
  have attempt := Attempt.ofDerivation derivation [] (beginsIn_nil _)
  rw [← text_eq] at attempt
  have matched : ruleOutcome Symbol.expression.rule (Cursor.start source) = _ :=
    ruleOutcome_eq attempt
  exact depthOfValue source _ _ matched

end Call
end Descent
