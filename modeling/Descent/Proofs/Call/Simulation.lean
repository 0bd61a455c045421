import Descent.Proofs.Call.Attempt
import Descent.Proofs.Call.OpenCalls

/-!
# Runs of the call grammar follow attempts

The attempt at a phrase tells the outcome of its parser, and the height of the attempt is the
number of calls that the run has open at a time.  Each kind of attempt is one lemma, put together
from the settled runs of its parts.
-/

namespace Descent
namespace Call

open Descent.Parser

/-- A parser settles on an outcome, with a history of some height. -/
def RunsTo (levels : Nat) (parser : Parser) (cursor : Cursor) (outcome : Outcome)
    (height : Nat) : Prop :=
  ∃ moments, Settled environment levels parser cursor outcome moments ∧ Opens moments height

theorem RunsTo.mono {levels more height : Nat} {parser : Parser} {cursor : Cursor}
    {outcome : Outcome} (runs : RunsTo levels parser cursor outcome height) (le : levels ≤ more) :
    RunsTo more parser cursor outcome height := by
  obtain ⟨moments, settled, opens⟩ := runs
  exact ⟨moments, settled.mono le, opens⟩

variable {cursor middle next : Cursor} {levels height furtherHeight : Nat} {value : Value}
  {values : List Value} {failure : Failure} {rest : List Char}
  {moments furtherMoments : List Moment}

/-- The history of a rule around the history of its body. -/
abbrev inRule (name : String) (cursor : Cursor) (moments : List Moment) : List Moment :=
  .entered name cursor.offset :: (moments ++ [.left name])

/-! ## Words and marks -/

theorem settled_identifier {name : Identifier}
    (split : Identifier.split? cursor.rest = some (name, rest)) :
    Settled environment 2 (.rule "identifier") cursor
      (.matched (.text (String.ofList name.text)) (cursor.forward name.text.length))
      (inRule "identifier" cursor
        [.took (.pattern identifierPattern "identifier") cursor.offset
          (cursor.forward name.text.length).offset]) := by
  have took : identifierPattern.matchEnd? cursor.offset cursor.rest =
      some (cursor.offset + name.text.length) := by
    rw [matchEnd?_identifierPattern, split, Option.map_some]
  exact .rule rfl (settled_pattern_took (Identifier.eq_append_of_split? split).1 took)

theorem runsTo_identifier {name : Identifier}
    (split : Identifier.split? cursor.rest = some (name, rest)) :
    RunsTo 2 (.rule "identifier") cursor
      (.matched (.text (String.ofList name.text)) (cursor.forward name.text.length)) 0 :=
  ⟨_, settled_identifier split, .rule (opens_took_pattern _ _ _ _) _ _⟩

theorem settled_noIdentifier (split : Identifier.split? cursor.rest = none) :
    Settled environment 2 (.rule "identifier") cursor (.failed ⟨"identifier", cursor⟩)
      (inRule "identifier" cursor
        [.failed (.pattern identifierPattern "identifier") ⟨"identifier", cursor⟩]) := by
  have refused : identifierPattern.matchEnd? cursor.offset cursor.rest = none := by
    rw [matchEnd?_identifierPattern, split, Option.map_none]
  exact .rule rfl (settled_pattern_failed refused)

theorem runsTo_noIdentifier (split : Identifier.split? cursor.rest = none) :
    RunsTo 2 (.rule "identifier") cursor (.failed ⟨"identifier", cursor⟩) 0 :=
  ⟨_, settled_noIdentifier split, .rule (opens_failed _ _) _ _⟩

theorem settled_number {literal : Literal}
    (split : Literal.split? cursor.rest = some (literal, rest)) :
    Settled environment 3 (.rule "number_literal") cursor
      (.matched (.number literal.number) (cursor.forward literal.text.length))
      (inRule "number_literal" cursor
        [.took (.pattern numberPattern "number") cursor.offset
          (cursor.forward literal.text.length).offset]) := by
  have took : numberPattern.matchEnd? cursor.offset cursor.rest =
      some (cursor.offset + literal.text.length) := by
    rw [matchEnd?_numberPattern, split, Option.map_some]
  rw [← numberOfText_text]
  exact .rule rfl (.transform numberOfText
    (settled_pattern_took (Literal.eq_append_of_split? split) took))

theorem runsTo_number {literal : Literal}
    (split : Literal.split? cursor.rest = some (literal, rest)) :
    RunsTo 3 (.rule "number_literal") cursor
      (.matched (.number literal.number) (cursor.forward literal.text.length)) 0 :=
  ⟨_, settled_number split, .rule (opens_took_pattern _ _ _ _) _ _⟩

theorem settled_noNumber (split : Literal.split? cursor.rest = none) :
    Settled environment 3 (.rule "number_literal") cursor (.failed ⟨"number", cursor⟩)
      (inRule "number_literal" cursor
        [.failed (.pattern numberPattern "number") ⟨"number", cursor⟩]) := by
  have refused : numberPattern.matchEnd? cursor.offset cursor.rest = none := by
    rw [matchEnd?_numberPattern, split, Option.map_none]
  exact .rule rfl (.transform numberOfText (settled_pattern_failed refused))

theorem runsTo_noNumber (split : Literal.split? cursor.rest = none) :
    RunsTo 3 (.rule "number_literal") cursor (.failed ⟨"number", cursor⟩) 0 :=
  ⟨_, settled_noNumber split, .rule (opens_failed _ _) _ _⟩

theorem settled_mark (text : String) (nonempty : text ≠ "") {mark : Char}
    (mark_eq : text.toList = [mark]) (text_eq : cursor.rest = mark :: rest) :
    Settled environment 1 (.literal text nonempty) cursor
      (.matched (.text text) (cursor.forward 1))
      [.took (.literal text nonempty) cursor.offset (cursor.forward 1).offset] := by
  have starts : cursor.startsWith text.toList = true := by
    simp [Cursor.startsWith, mark_eq, text_eq]
  have settled : Settled environment 1 (.literal text nonempty) cursor _ _ :=
    settled_literal_took starts
  rwa [mark_eq] at settled

theorem settled_noMark (text : String) (nonempty : text ≠ "") {mark : Char}
    (mark_eq : text.toList = [mark]) (head : cursor.rest.head? ≠ some mark) :
    Settled environment 1 (.literal text nonempty) cursor (.failed ⟨text, cursor⟩)
      [.failed (.literal text nonempty) ⟨text, cursor⟩] := by
  have refused : cursor.startsWith text.toList = false := by
    rw [Cursor.startsWith, mark_eq]
    cases rest_eq : cursor.rest with
    | nil => rfl
    | cons character rest =>
        have other : mark ≠ character := by
          rintro rfl
          exact head (by rw [rest_eq, List.head?_cons])
        simp [List.isPrefixOf, other]
  exact settled_literal_failed refused

/-! ## Arguments -/

theorem settled_trailingArgument (text_eq : cursor.rest = ',' :: rest)
    (argument : Settled environment levels (.rule "expr") (cursor.forward 1)
      (.matched value next) moments) :
    Settled environment (levels + 4) (.rule "trailing_arg") cursor (.matched value next)
      (inRule "trailing_arg" cursor
        ([.took (.literal "," (by decide)) cursor.offset (cursor.forward 1).offset] ++
          (moments ++ []))) := by
  have comma := (settled_mark "," (by decide) rfl text_eq).mono (Nat.le_add_left 1 levels)
  have behind := argument.mono (Nat.le_succ levels)
  exact .rule rfl (.transform argumentOfParts (StepsSettled.sequence
    (comma.steps_matched (behind.steps_matched (stepsSettled_nil _ _ _)))))

theorem runsTo_trailingArgument (text_eq : cursor.rest = ',' :: rest)
    (argument : RunsTo levels (.rule "expr") (cursor.forward 1) (.matched value next) height) :
    RunsTo (levels + 4) (.rule "trailing_arg") cursor (.matched value next) height := by
  obtain ⟨moments, settled, opens⟩ := argument
  refine ⟨_, settled_trailingArgument text_eq settled, .rule ?_ _ _⟩
  simpa using (opens_took_literal (by decide) _ _).append (opens.append opens_nil)

theorem settled_noComma (head : cursor.rest.head? ≠ some ',') :
    Settled environment 4 (.rule "trailing_arg") cursor (.failed ⟨",", cursor⟩)
      (inRule "trailing_arg" cursor [.failed (.literal "," (by decide)) ⟨",", cursor⟩]) :=
  .rule rfl (.transform argumentOfParts (StepsSettled.sequence
    ((settled_noMark "," (by decide) rfl head).steps_failed _)))

theorem runsTo_noComma (head : cursor.rest.head? ≠ some ',') :
    RunsTo 4 (.rule "trailing_arg") cursor (.failed ⟨",", cursor⟩) 0 :=
  ⟨_, settled_noComma head, .rule (opens_failed _ _) _ _⟩

theorem runsTo_noArgument (text_eq : cursor.rest = ',' :: rest)
    (argument : RunsTo levels (.rule "expr") (cursor.forward 1) (.failed failure) height) :
    RunsTo (levels + 4) (.rule "trailing_arg") cursor (.failed failure) height := by
  obtain ⟨moments, settled, opens⟩ := argument.mono (Nat.le_succ levels)
  have comma := (settled_mark "," (by decide) rfl text_eq).mono (Nat.le_add_left 1 levels)
  refine ⟨_, .rule rfl (.transform argumentOfParts (StepsSettled.sequence
    (comma.steps_matched (settled.steps_failed _)))), .rule ?_ _ _⟩
  simpa using (opens_took_literal (by decide) _ _).append opens

theorem settled_argumentList
    (first : Settled environment levels (.rule "expr") cursor (.matched value middle) moments)
    (others : Settled environment levels (.many (.rule "trailing_arg")) middle
      (.matched (.tuple values) next) furtherMoments) :
    Settled environment (levels + 3) (.rule "argument_list") cursor
      (.matched (.tuple (value :: values)) next)
      (inRule "argument_list" cursor (moments ++ (furtherMoments ++ []))) :=
  .rule rfl (.transform argumentsOfParts (StepsSettled.sequence
    (first.steps_matched (others.steps_matched (stepsSettled_nil _ _ _)))))

theorem runsTo_argumentList
    (first : RunsTo levels (.rule "expr") cursor (.matched value middle) height)
    (others : RunsTo levels (.many (.rule "trailing_arg")) middle (.matched (.tuple values) next)
      furtherHeight) :
    RunsTo (levels + 3) (.rule "argument_list") cursor (.matched (.tuple (value :: values)) next)
      (max height furtherHeight) := by
  obtain ⟨moments, settled, opens⟩ := first
  obtain ⟨furtherMoments, furtherSettled, furtherOpens⟩ := others
  refine ⟨_, settled_argumentList settled furtherSettled, .rule ?_ _ _⟩
  simpa using opens.append (furtherOpens.append opens_nil)

theorem settled_noFirst
    (first : Settled environment levels (.rule "expr") cursor (.failed failure) moments) :
    Settled environment (levels + 3) (.rule "argument_list") cursor (.failed failure)
      (inRule "argument_list" cursor moments) :=
  .rule rfl (.transform argumentsOfParts (StepsSettled.sequence (first.steps_failed _)))

theorem runsTo_noFirst
    (first : RunsTo levels (.rule "expr") cursor (.failed failure) height) :
    RunsTo (levels + 3) (.rule "argument_list") cursor (.failed failure) height := by
  obtain ⟨moments, settled, opens⟩ := first
  exact ⟨_, settled_noFirst settled, .rule opens _ _⟩

/-! ## Calls -/

theorem settled_noTarget (split : Identifier.split? cursor.rest = none) :
    Settled environment 5 (.rule "call") cursor (.failed ⟨"identifier", cursor⟩)
      (inRule "call" cursor
        (inRule "identifier" cursor
          [.failed (.pattern identifierPattern "identifier") ⟨"identifier", cursor⟩])) :=
  .rule rfl (.transform callOfParts (StepsSettled.sequence
    ((settled_noIdentifier split).steps_failed _)))

theorem runsTo_noTarget (split : Identifier.split? cursor.rest = none) :
    RunsTo 5 (.rule "call") cursor (.failed ⟨"identifier", cursor⟩) 0 :=
  ⟨_, settled_noTarget split, .rule (.rule (opens_failed _ _) _ _) _ _⟩

theorem settled_notOpened {name : Identifier}
    (split : Identifier.split? cursor.rest = some (name, rest)) (head : rest.head? ≠ some '(') :
    Settled environment 5 (.rule "call") cursor
      (.failed ⟨"(", cursor.forward name.text.length⟩)
      (inRule "call" cursor
        (inRule "identifier" cursor
            [.took (.pattern identifierPattern "identifier") cursor.offset
              (cursor.forward name.text.length).offset] ++
          [.failed (.literal "(" (by decide)) ⟨"(", cursor.forward name.text.length⟩])) := by
  have text_eq := (Identifier.eq_append_of_split? split).1
  rw [← Cursor.rest_forward_of_eq_append text_eq] at head
  have mark := (settled_noMark "(" (by decide) rfl head).mono (Nat.le_succ 1)
  exact .rule rfl (.transform callOfParts (StepsSettled.sequence
    ((settled_identifier split).steps_matched (mark.steps_failed _))))

theorem runsTo_notOpened {name : Identifier}
    (split : Identifier.split? cursor.rest = some (name, rest)) (head : rest.head? ≠ some '(') :
    RunsTo 5 (.rule "call") cursor (.failed ⟨"(", cursor.forward name.text.length⟩) 0 := by
  refine ⟨_, settled_notOpened split head, .rule ?_ _ _⟩
  simpa using (Opens.rule (opens_took_pattern _ _ _ _) _ _).append (opens_failed _ _)

theorem opening_ne_empty : "(" ≠ "" := by decide

/-- The history of a call in front of that of its arguments and of the closing parenthesis. -/
abbrev inCall (name : Identifier) (cursor : Cursor) (moments : List Moment) : List Moment :=
  inRule "call" cursor
    (inRule "identifier" cursor
        [.took (.pattern identifierPattern "identifier") cursor.offset
          (cursor.forward name.text.length).offset] ++
      ([.took (.literal "(" opening_ne_empty) (cursor.forward name.text.length).offset
          (cursor.forward (name.text.length + 1)).offset] ++ moments))

/-- The name and the opening parenthesis of a call, in front of any progress with its arguments. -/
theorem settled_opened {name : Identifier}
    (split : Identifier.split? cursor.rest = some (name, '(' :: rest)) {progress : Progress}
    (inside : StepsSettled environment (levels + 2)
      [.optional (.rule "argument_list"), .literal ")" (by decide)]
      (cursor.forward (name.text.length + 1)) progress moments) :
    Settled environment (levels + 5) (.rule "call") cursor
      ((((progress.after (.text "(")).after (.text (String.ofList name.text))).outcome []).map
        callOfParts) (inCall name cursor moments) := by
  have opening :=
    Cursor.rest_forward_of_eq_append (Identifier.eq_append_of_split? split).1
  have target := (settled_identifier split).mono (Nat.le_add_left 2 levels)
  have mark := (settled_mark "(" (by decide) rfl opening).mono
    (Nat.le_add_left 1 (levels + 1))
  rw [Cursor.forward_forward] at mark
  exact .rule rfl (.transform callOfParts (StepsSettled.sequence
    (target.steps_matched (mark.steps_matched inside))))

theorem Opens.inCall (opens : Opens moments height) (name : Identifier) (cursor : Cursor) :
    Opens (inCall name cursor moments) (height + 1) :=
  Opens.call (.rule (opens_took_pattern _ _ _ _) _ _) opens _ _ _

theorem settled_call {name : Identifier}
    (split : Identifier.split? cursor.rest = some (name, '(' :: rest))
    (arguments : Settled environment levels (.optional (.rule "argument_list"))
      (cursor.forward (name.text.length + 1)) (.matched value next) moments)
    {after : List Char} (closed : next.rest = ')' :: after) :
    Settled environment (levels + 5) (.rule "call") cursor
      (.matched
        (callOfParts (.tuple [.text (String.ofList name.text), .text "(", value, .text ")"]))
        (next.forward 1))
      (inCall name cursor
        (moments ++
          ([.took (.literal ")" (by decide)) next.offset (next.forward 1).offset] ++ []))) := by
  have mark := (settled_mark ")" (by decide) rfl closed).mono (Nat.le_add_left 1 (levels + 1))
  exact settled_opened split ((arguments.mono (Nat.le_add_right levels 2)).steps_matched
    (mark.steps_matched (stepsSettled_nil _ _ _)))

theorem runsTo_call {name : Identifier}
    (split : Identifier.split? cursor.rest = some (name, '(' :: rest))
    (arguments : RunsTo levels (.optional (.rule "argument_list"))
      (cursor.forward (name.text.length + 1)) (.matched value next) height)
    {after : List Char} (closed : next.rest = ')' :: after) :
    RunsTo (levels + 5) (.rule "call") cursor
      (.matched
        (callOfParts (.tuple [.text (String.ofList name.text), .text "(", value, .text ")"]))
        (next.forward 1)) (height + 1) := by
  obtain ⟨moments, settled, opens⟩ := arguments
  refine ⟨_, settled_call split settled closed, .inCall ?_ name cursor⟩
  simpa using opens.append ((opens_took_literal (by decide) _ _).append opens_nil)

theorem settled_notClosed {name : Identifier}
    (split : Identifier.split? cursor.rest = some (name, '(' :: rest))
    (arguments : Settled environment levels (.optional (.rule "argument_list"))
      (cursor.forward (name.text.length + 1)) (.matched value next) moments)
    (head : next.rest.head? ≠ some ')') :
    Settled environment (levels + 5) (.rule "call") cursor (.failed ⟨")", next⟩)
      (inCall name cursor (moments ++ [.failed (.literal ")" (by decide)) ⟨")", next⟩])) := by
  have mark := (settled_noMark ")" (by decide) rfl head).mono (Nat.le_add_left 1 (levels + 1))
  exact settled_opened split ((arguments.mono (Nat.le_add_right levels 2)).steps_matched
    (mark.steps_failed _))

theorem runsTo_notClosed {name : Identifier}
    (split : Identifier.split? cursor.rest = some (name, '(' :: rest))
    (arguments : RunsTo levels (.optional (.rule "argument_list"))
      (cursor.forward (name.text.length + 1)) (.matched value next) height)
    (head : next.rest.head? ≠ some ')') :
    RunsTo (levels + 5) (.rule "call") cursor (.failed ⟨")", next⟩) (height + 1) := by
  obtain ⟨moments, settled, opens⟩ := arguments
  refine ⟨_, settled_notClosed split settled head, .inCall ?_ name cursor⟩
  simpa using opens.append (opens_failed _ _)

/-! ## Expressions -/

theorem settled_ofCall
    (call : Settled environment levels (.rule "call") cursor (.matched value next) moments) :
    Settled environment (levels + 2) (.rule "expr") cursor (.matched value next)
      (inRule "expr" cursor moments) :=
  .rule rfl (ChoiceSettled.anyOf (call.choice_matched _))

theorem runsTo_ofCall (call : RunsTo levels (.rule "call") cursor (.matched value next) height) :
    RunsTo (levels + 2) (.rule "expr") cursor (.matched value next) height := by
  obtain ⟨moments, settled, opens⟩ := call
  exact ⟨_, settled_ofCall settled, .rule opens _ _⟩

theorem settled_ofNumber
    (call : Settled environment levels (.rule "call") cursor (.failed failure) moments)
    (number : Settled environment levels (.rule "number_literal") cursor (.matched value next)
      furtherMoments) :
    Settled environment (levels + 2) (.rule "expr") cursor (.matched value next)
      (inRule "expr" cursor (moments ++ furtherMoments)) :=
  .rule rfl (ChoiceSettled.anyOf (call.choice_failed (number.choice_matched _)))

theorem runsTo_ofNumber (call : RunsTo levels (.rule "call") cursor (.failed failure) height)
    (number : RunsTo levels (.rule "number_literal") cursor (.matched value next) furtherHeight) :
    RunsTo (levels + 2) (.rule "expr") cursor (.matched value next)
      (max height furtherHeight) := by
  obtain ⟨moments, settled, opens⟩ := call
  obtain ⟨furtherMoments, furtherSettled, furtherOpens⟩ := number
  exact ⟨_, settled_ofNumber settled furtherSettled, .rule (opens.append furtherOpens) _ _⟩

/-- Of two failed alternatives the call is reported, as a number fails where it starts. -/
theorem settled_noExpression {label : String} {count : Nat}
    (call : Settled environment levels (.rule "call") cursor
      (.failed ⟨label, cursor.forward count⟩) moments)
    (number : Settled environment levels (.rule "number_literal") cursor
      (.failed ⟨"number", cursor⟩) furtherMoments) :
    Settled environment (levels + 2) (.rule "expr") cursor (.failed ⟨label, cursor.forward count⟩)
      (inRule "expr" cursor (moments ++ furtherMoments)) := by
  have furthest : Action.furthest (some ⟨label, cursor.forward count⟩) ⟨"number", cursor⟩ =
      ⟨label, cursor.forward count⟩ :=
    if_neg (Nat.not_lt.mpr (cursor.offset_le_offset_forward count))
  have neither := choiceSettled_nil environment levels ⟨label, cursor.forward count⟩ cursor
  have choice : ChoiceSettled environment levels none [.rule "call", .rule "number_literal"] cursor
      (.failed ⟨label, cursor.forward count⟩) (moments ++ (furtherMoments ++ [])) :=
    call.choice_failed (number.choice_failed (furthest.symm ▸ neither))
  rw [List.append_nil] at choice
  exact .rule rfl (ChoiceSettled.anyOf choice)

theorem runsTo_noExpression {label : String} {count : Nat}
    (call : RunsTo levels (.rule "call") cursor (.failed ⟨label, cursor.forward count⟩) height)
    (number : RunsTo levels (.rule "number_literal") cursor (.failed ⟨"number", cursor⟩)
      furtherHeight) :
    RunsTo (levels + 2) (.rule "expr") cursor (.failed ⟨label, cursor.forward count⟩)
      (max height furtherHeight) := by
  obtain ⟨moments, settled, opens⟩ := call
  obtain ⟨furtherMoments, furtherSettled, furtherOpens⟩ := number
  exact ⟨_, settled_noExpression settled furtherSettled, .rule (opens.append furtherOpens) _ _⟩

/-! ## Optional arguments and further arguments -/

theorem runsTo_optional {outcome : Outcome}
    (list : RunsTo levels (.rule "argument_list") cursor outcome height) :
    RunsTo (levels + 1) (.optional (.rule "argument_list")) cursor (outcome.orNothing cursor)
      height := by
  obtain ⟨moments, settled, opens⟩ := list
  exact ⟨_, settled.optional, opens⟩

/-- A repetition of trailing arguments settles on values, with a history of some height. -/
def RepeatsTo (levels : Nat) (cursor : Cursor) (values : List Value) (next : Cursor)
    (height : Nat) : Prop :=
  ∃ moments,
    RepetitionSettled environment levels (.rule "trailing_arg") cursor values next moments ∧
      Opens moments height

theorem RepeatsTo.mono {more : Nat} (repeats : RepeatsTo levels cursor values next height)
    (le : levels ≤ more) : RepeatsTo more cursor values next height := by
  obtain ⟨moments, settled, opens⟩ := repeats
  exact ⟨moments, settled.mono le, opens⟩

theorem repeatsTo_noMore
    (argument : RunsTo levels (.rule "trailing_arg") cursor (.failed failure) height) :
    RepeatsTo levels cursor [] cursor height := by
  obtain ⟨moments, settled, opens⟩ := argument
  exact ⟨_, settled.repetition_stop, opens⟩

theorem repeatsTo_more
    (argument : RunsTo levels (.rule "trailing_arg") cursor (.matched value middle) height)
    (progress : cursor.offset < middle.offset) (shorter : middle.remaining < cursor.remaining)
    (others : RepeatsTo levels middle values next furtherHeight) :
    RepeatsTo levels cursor (value :: values) next (max height furtherHeight) := by
  obtain ⟨moments, settled, opens⟩ := argument
  obtain ⟨furtherMoments, furtherSettled, furtherOpens⟩ := others
  exact ⟨_, settled.repetition_again progress shorter furtherSettled, opens.append furtherOpens⟩

theorem RepeatsTo.runsTo (repeats : RepeatsTo levels cursor values next height) :
    RunsTo (levels + 1) (.many (.rule "trailing_arg")) cursor (.matched (.tuple values) next)
      height := by
  obtain ⟨moments, settled, opens⟩ := repeats
  exact ⟨_, settled.many, opens⟩

/-! ## Attempts -/

/-- The value of a phrase: nothing for absent arguments, and the tuple of all for a list. -/
def Derivation.result : {phrase : Phrase} → Derivation phrase → Value
  | .once _, derivation => derivation.value
  | .optionalArguments, .noArguments => .null
  | .optionalArguments, .someArguments arguments => .tuple arguments.values
  | .trailingArguments, derivation => .tuple derivation.values

/-- The outcome that an ending stands for at a position. -/
def Ending.outcome {phrase : Phrase} (cursor : Cursor) : Ending phrase → Outcome
  | complete derivation => .matched derivation.result (cursor.forward derivation.text.length)
  | broken label taken => .failed ⟨label, cursor.forward taken.length⟩

/-- Levels that the run of a rule needs besides those for every character. -/
def Symbol.margin : Symbol → Nat
  | identifier => 2
  | numberLiteral => 3
  | trailingArgument => 4
  | argumentList => 10
  | call => 5
  | expression => 7

/--
The parser of a phrase comes to the outcome of an ending, with a history of some height.  From a
call to a call among its arguments there are at most thirteen levels, and at least one character
is taken.
-/
def Simulates (cursor : Cursor) (height : Nat) : {phrase : Phrase} → Ending phrase → Prop
  | .once symbol, ending =>
      RunsTo (13 * cursor.remaining + symbol.margin) (.rule symbol.rule) cursor
        (ending.outcome cursor) height
  | .optionalArguments, ending =>
      RunsTo (13 * cursor.remaining + 11) (.optional (.rule "argument_list")) cursor
        (ending.outcome cursor) height
  | .trailingArguments, .complete others =>
      RepeatsTo (13 * cursor.remaining + 4) cursor others.values
        (cursor.forward others.text.length) height
  | .trailingArguments, .broken _ _ => False

theorem callOfParts_result (target : String) (arguments : Derivation .optionalArguments) :
    callOfParts (.tuple [.text target, .text "(", arguments.result, .text ")"]) =
      .call target arguments.values := by
  cases arguments with
  | noArguments => rfl
  | someArguments list => rfl

/-- The text behind something taken is shorter. -/
theorem remaining_forward_lt {taken : List Char} (text_eq : cursor.rest = taken ++ rest)
    (nonempty : taken ≠ []) :
    (cursor.forward taken.length).remaining < cursor.remaining ∧
      cursor.offset < (cursor.forward taken.length).offset := by
  have lengths := cursor.length_rest
  have positive := List.length_pos_iff.mpr nonempty
  rw [text_eq, List.length_append] at lengths
  rw [Cursor.remaining_forward, Cursor.offset_forward_of_eq_append text_eq]
  omega

/-- The position behind a comma. -/
theorem rest_forward_of_comma (text_eq : cursor.rest = ',' :: rest) :
    (cursor.forward 1).rest = rest ∧ (cursor.forward 1).remaining < cursor.remaining := by
  have taken_eq : cursor.rest = [','] ++ rest := text_eq
  have behind := Cursor.rest_forward_of_eq_append taken_eq
  exact ⟨behind, (remaining_forward_lt taken_eq (List.cons_ne_nil ',' [])).1⟩

/-- The position behind an opening parenthesis, for the arguments of a call. -/
theorem rest_forward_of_split? {name : Identifier}
    (split : Identifier.split? cursor.rest = some (name, '(' :: rest)) :
    (cursor.forward (name.text.length + 1)).rest = rest ∧
      (cursor.forward (name.text.length + 1)).remaining < cursor.remaining := by
  have text_eq : cursor.rest = (name.text ++ ['(']) ++ rest := by
    rw [(Identifier.eq_append_of_split? split).1]
    simp
  have length_eq : (name.text ++ ['(']).length = name.text.length + 1 := by simp
  rw [← length_eq]
  exact ⟨Cursor.rest_forward_of_eq_append text_eq, (remaining_forward_lt text_eq (by simp)).1⟩

/-- An attempt that breaks before it takes anything fails where it starts. -/
theorem simulates_broken_nil {symbol : Symbol} {label : String}
    (runs : RunsTo symbol.margin (.rule symbol.rule) cursor (.failed ⟨label, cursor⟩) height) :
    Simulates cursor height (Ending.broken label [] : Ending (.once symbol)) := by
  rw [Simulates, Ending.outcome, List.length_nil, Cursor.forward_zero]
  exact runs.mono (Nat.le_add_left _ _)

theorem simulates_trailingArgument {argument : Derivation (.once .expression)}
    (text_eq : cursor.rest = ',' :: rest)
    (inside : Simulates (cursor.forward 1) height (Ending.complete argument)) :
    Simulates cursor height (Ending.complete (Derivation.trailingArgument argument)) := by
  obtain ⟨-, shorter⟩ := rest_forward_of_comma text_eq
  have expression : RunsTo (13 * (cursor.forward 1).remaining + 7) (.rule "expr")
      (cursor.forward 1)
      (.matched argument.value ((cursor.forward 1).forward argument.text.length)) height := inside
  rw [Cursor.forward_forward, Nat.add_comm 1] at expression
  change RunsTo (13 * cursor.remaining + 4) _ cursor _ height
  exact (runsTo_trailingArgument text_eq expression).mono (by omega)

theorem simulates_noArgument {label : String} {taken : List Char}
    (text_eq : cursor.rest = ',' :: rest)
    (inside : Simulates (cursor.forward 1) height
      (Ending.broken label taken : Ending (.once .expression))) :
    Simulates cursor height
      (Ending.broken label (',' :: taken) : Ending (.once .trailingArgument)) := by
  obtain ⟨-, shorter⟩ := rest_forward_of_comma text_eq
  have expression : RunsTo (13 * (cursor.forward 1).remaining + 7) (.rule "expr")
      (cursor.forward 1) (.failed ⟨label, (cursor.forward 1).forward taken.length⟩) height := inside
  rw [Cursor.forward_forward, Nat.add_comm 1] at expression
  change RunsTo (13 * cursor.remaining + 4) _ cursor _ height
  exact (runsTo_noArgument text_eq expression).mono (by omega)

theorem simulates_argumentList {first : Derivation (.once .expression)}
    {others : Derivation .trailingArguments} (text_eq : cursor.rest = first.text ++ rest)
    (inside : Simulates cursor height (Ending.complete first))
    (further : Simulates (cursor.forward first.text.length) furtherHeight
      (Ending.complete others)) :
    Simulates cursor (max height furtherHeight)
      (Ending.complete (Derivation.argumentList first others)) := by
  obtain ⟨shorter, -⟩ := remaining_forward_lt text_eq first.text_ne_nil
  have repeats : RepeatsTo (13 * (cursor.forward first.text.length).remaining + 4)
      (cursor.forward first.text.length) others.values
      ((cursor.forward first.text.length).forward others.text.length) furtherHeight := further
  have expression : RunsTo (13 * cursor.remaining + 7) (.rule "expr") cursor
      (.matched first.value (cursor.forward first.text.length)) height := inside
  have list := runsTo_argumentList expression (repeats.runsTo.mono (by omega))
  change RunsTo (13 * cursor.remaining + 10) _ cursor
    (.matched (.tuple (first.values ++ others.values))
      (cursor.forward (first.text ++ others.text).length)) _
  rw [Cursor.forward_forward] at list
  rw [first.values_eq_singleton (by decide), List.length_append]
  exact list

theorem simulates_more {first : Derivation (.once .trailingArgument)}
    {others : Derivation .trailingArguments} (text_eq : cursor.rest = first.text ++ rest)
    (inside : Simulates cursor height (Ending.complete first))
    (further : Simulates (cursor.forward first.text.length) furtherHeight
      (Ending.complete others)) :
    Simulates cursor (max height furtherHeight)
      (Ending.complete (Derivation.more first others)) := by
  obtain ⟨shorter, progress⟩ := remaining_forward_lt text_eq first.text_ne_nil
  have repeats : RepeatsTo (13 * (cursor.forward first.text.length).remaining + 4)
      (cursor.forward first.text.length) others.values
      ((cursor.forward first.text.length).forward others.text.length) furtherHeight := further
  have argument : RunsTo (13 * cursor.remaining + 4) (.rule "trailing_arg") cursor
      (.matched first.value (cursor.forward first.text.length)) height := inside
  have list := repeatsTo_more argument progress shorter (repeats.mono (by omega))
  change RepeatsTo (13 * cursor.remaining + 4) cursor (first.values ++ others.values)
    (cursor.forward (first.text ++ others.text).length) _
  rw [Cursor.forward_forward] at list
  rw [first.values_eq_singleton (by decide), List.length_append]
  exact list

theorem simulates_call {name : Identifier} {arguments : Derivation .optionalArguments}
    {after : List Char} (split : Identifier.split? cursor.rest = some (name, '(' :: rest))
    (rest_eq : rest = arguments.text ++ ')' :: after)
    (inside : Simulates (cursor.forward (name.text.length + 1)) height
      (Ending.complete arguments)) :
    Simulates cursor (height + 1)
      (Ending.complete (Derivation.call (.identifier name) arguments)) := by
  obtain ⟨inner_eq, shorter⟩ := rest_forward_of_split? split
  have optional : RunsTo (13 * (cursor.forward (name.text.length + 1)).remaining + 11)
      (.optional (.rule "argument_list")) (cursor.forward (name.text.length + 1))
      (.matched arguments.result
        ((cursor.forward (name.text.length + 1)).forward arguments.text.length)) height := inside
  have closing := Cursor.rest_forward_of_eq_append (inner_eq.trans rest_eq)
  have call := runsTo_call split optional closing
  rw [callOfParts_result, Cursor.forward_forward, Cursor.forward_forward] at call
  have length_eq : (Derivation.call (.identifier name) arguments).text.length =
      name.text.length + 1 + arguments.text.length + 1 := by
    simp only [Derivation.text, List.length_append, List.length_cons, List.length_nil]
    omega
  change RunsTo (13 * cursor.remaining + 5) _ cursor _ _
  rw [Ending.outcome, length_eq]
  exact call.mono (by omega)

theorem simulates_notClosed {name : Identifier} {arguments : Derivation .optionalArguments}
    {after : List Char} (split : Identifier.split? cursor.rest = some (name, '(' :: rest))
    (rest_eq : rest = arguments.text ++ after) (head : after.head? ≠ some ')')
    (inside : Simulates (cursor.forward (name.text.length + 1)) height
      (Ending.complete arguments)) :
    Simulates cursor (height + 1)
      (Ending.broken ")" (name.text ++ '(' :: arguments.text) : Ending (.once .call)) := by
  obtain ⟨inner_eq, shorter⟩ := rest_forward_of_split? split
  have optional : RunsTo (13 * (cursor.forward (name.text.length + 1)).remaining + 11)
      (.optional (.rule "argument_list")) (cursor.forward (name.text.length + 1))
      (.matched arguments.result
        ((cursor.forward (name.text.length + 1)).forward arguments.text.length)) height := inside
  have behind := Cursor.rest_forward_of_eq_append (inner_eq.trans rest_eq)
  have call := runsTo_notClosed split optional (behind ▸ head)
  rw [Cursor.forward_forward] at call
  have length_eq : (name.text ++ '(' :: arguments.text).length =
      name.text.length + 1 + arguments.text.length := by
    simp only [List.length_append, List.length_cons]
    omega
  change RunsTo (13 * cursor.remaining + 5) _ cursor _ _
  rw [Ending.outcome, length_eq]
  exact call.mono (by omega)

/-- The parser of a phrase does what the attempt at the text says. -/
theorem Attempt.simulates {phrase : Phrase} {text : List Char} {ending : Ending phrase}
    {height : Nat} (attempt : Attempt phrase text ending height) :
    ∀ cursor : Cursor, cursor.rest = text → Simulates cursor height ending := by
  induction attempt with
  | identifier split =>
      rintro cursor rfl
      exact (runsTo_identifier split).mono (Nat.le_add_left _ _)
  | noIdentifier split =>
      rintro cursor rfl
      exact simulates_broken_nil (runsTo_noIdentifier split)
  | numberLiteral split =>
      rintro cursor rfl
      exact (runsTo_number split).mono (Nat.le_add_left _ _)
  | noNumber split =>
      rintro cursor rfl
      exact simulates_broken_nil (runsTo_noNumber split)
  | trailingArgument _ induction =>
      intro cursor text_eq
      exact simulates_trailingArgument text_eq (induction _ (rest_forward_of_comma text_eq).1)
  | noComma head =>
      rintro cursor rfl
      exact simulates_broken_nil (runsTo_noComma head)
  | noArgument _ induction =>
      intro cursor text_eq
      exact simulates_noArgument text_eq (induction _ (rest_forward_of_comma text_eq).1)
  | argumentList _ text_eq _ induction furtherInduction =>
      rintro cursor rfl
      exact simulates_argumentList text_eq (induction cursor rfl)
        (furtherInduction _ (Cursor.rest_forward_of_eq_append text_eq))
  | noFirst _ induction =>
      intro cursor text_eq
      exact runsTo_noFirst (induction cursor text_eq)
  | call split _ rest_eq induction =>
      rintro cursor rfl
      exact simulates_call split rest_eq (induction _ (rest_forward_of_split? split).1)
  | noTarget split =>
      rintro cursor rfl
      exact simulates_broken_nil (runsTo_noTarget split)
  | notOpened split head =>
      rintro cursor rfl
      exact (runsTo_notOpened split head).mono (Nat.le_add_left _ _)
  | notClosed split _ rest_eq head induction =>
      rintro cursor rfl
      exact simulates_notClosed split rest_eq head (induction _ (rest_forward_of_split? split).1)
  | ofCall _ induction =>
      intro cursor text_eq
      exact runsTo_ofCall (induction cursor text_eq)
  | ofNumber _ _ induction numberInduction =>
      intro cursor text_eq
      exact runsTo_ofNumber (induction cursor text_eq)
        ((numberInduction cursor text_eq).mono (Nat.add_le_add_left (by decide) _))
  | noExpression _ noNumber induction _ =>
      rintro cursor rfl
      cases noNumber with
      | noNumber split =>
          exact runsTo_noExpression (induction cursor rfl)
            ((runsTo_noNumber split).mono (Nat.le_add_left_of_le (by decide)))
  | noArguments _ induction =>
      intro cursor text_eq
      have list := runsTo_optional (induction cursor text_eq)
      change RunsTo _ _ cursor (.matched .null (cursor.forward 0)) _
      rw [Cursor.forward_zero]
      exact list
  | someArguments _ induction =>
      intro cursor text_eq
      exact runsTo_optional (induction cursor text_eq)
  | noMore _ induction =>
      intro cursor text_eq
      change RepeatsTo _ cursor [] (cursor.forward 0) _
      rw [Cursor.forward_zero]
      exact repeatsTo_noMore (induction cursor text_eq)
  | more _ text_eq _ induction furtherInduction =>
      rintro cursor rfl
      exact simulates_more text_eq (induction cursor rfl)
        (furtherInduction _ (Cursor.rest_forward_of_eq_append text_eq))

end Call
end Descent
