import Descent.Proofs.Call.FailureReport
import Descent.Proofs.Parser.Provenance

/-!
# When the reported failure is the furthest one

Failures of arguments that are optional, or that could have been further ones, are dropped on the
way out, however far they are.  So no primitive fails behind the reported place unless the arguments
of the outermost call stop in front of text with which they could have gone on: a letter where there
are no arguments, and a comma behind some.
-/

namespace Descent
namespace Call

open Descent.Parser

/-! ## Failures past an offset -/

/-- A primitive fails past an offset. -/
def FailsPast (offset : Nat) (moments : List Moment) : Prop :=
  ∃ reader failure, .failed reader failure ∈ moments ∧ offset < failure.offset

variable {offset : Nat} {moments further : List Moment}

@[simp]
theorem not_failsPast_nil (offset : Nat) : ¬ FailsPast offset [] := nofun

@[simp]
theorem failsPast_entered (rule : String) (start : Nat) :
    FailsPast offset (.entered rule start :: moments) ↔ FailsPast offset moments := by
  simp [FailsPast]

@[simp]
theorem failsPast_left (rule : String) :
    FailsPast offset (.left rule :: moments) ↔ FailsPast offset moments := by
  simp [FailsPast]

@[simp]
theorem failsPast_took (reader : Parser) (start stop : Nat) :
    FailsPast offset (.took reader start stop :: moments) ↔ FailsPast offset moments := by
  simp [FailsPast]

@[simp]
theorem failsPast_failed (reader : Parser) (failure : Failure) :
    FailsPast offset (.failed reader failure :: moments) ↔
      offset < failure.cursor.offset ∨ FailsPast offset moments := by
  constructor
  · rintro ⟨found, other, mem, past⟩
    rcases List.mem_cons.mp mem with same | mem
    · obtain ⟨rfl, rfl⟩ := Moment.failed.inj same
      exact .inl past
    · exact .inr ⟨found, other, mem, past⟩
  · rintro (past | ⟨found, other, mem, past⟩)
    · exact ⟨reader, failure, List.mem_cons_self, past⟩
    · exact ⟨found, other, List.mem_cons_of_mem _ mem, past⟩

@[simp]
theorem failsPast_append :
    FailsPast offset (moments ++ further) ↔
      FailsPast offset moments ∨ FailsPast offset further := by
  simp only [FailsPast, List.mem_append, or_and_right, exists_or]

theorem FailsPast.mono {smaller : Nat} (past : FailsPast offset moments) (le : smaller ≤ offset) :
    FailsPast smaller moments := by
  obtain ⟨reader, failure, mem, past⟩ := past
  exact ⟨reader, failure, mem, Nat.lt_of_le_of_lt le past⟩

/-! ## Text with which a phrase could have gone on -/

/-- The text behind a derivation begins like more arguments than it has. -/
def Derivation.GoesOn : {phrase : Phrase} → Derivation phrase → List Char → Prop
  | _, noArguments, rest => ¬ HeadFails isLetter rest
  | _, someArguments _, rest => rest.head? = some ','
  | _, argumentList _ _, rest => rest.head? = some ','
  | _, noMore, rest => rest.head? = some ','
  | _, more _ _, rest => rest.head? = some ','
  | _, _, _ => False

theorem Derivation.goesOn_trailingArguments (others : Derivation .trailingArguments)
    (rest : List Char) : others.GoesOn rest ↔ rest.head? = some ',' := by
  cases others <;> rfl

/-- Only what ends with a list can go on. -/
theorem Derivation.not_goesOn {symbol : Symbol} (ordinary : symbol ≠ .argumentList)
    (derivation : Derivation (.once symbol)) (rest : List Char) : ¬ derivation.GoesOn rest := by
  cases derivation with
  | argumentList _ _ => exact absurd rfl ordinary
  | identifier | numberLiteral | trailingArgument | call | ofCall | ofNumber => exact id

/-- No argument begins with a closing parenthesis. -/
theorem Derivation.not_goesOn_closing (arguments : Derivation .optionalArguments)
    (after : List Char) : ¬ arguments.GoesOn (')' :: after) := by
  cases arguments with
  | noArguments => exact not_not.mpr (headFails_cons rfl after)
  | someArguments _ => simp [GoesOn]

/-! ## Broken attempts -/

variable {cursor : Cursor} {text rest taken : List Char} {label : String} {height : Nat}

theorem isPlain_rule (name : String) : (Parser.rule name).IsPlain environment :=
  isPlain_of_terms (by decide) rfl

/-- An expression breaks behind its start exactly if it begins with a letter. -/
theorem Attempt.taken_eq_nil_iff_of_expression
    (attempt : Attempt (.once .expression) text (.broken label taken) height) :
    taken = [] ↔ HeadFails isLetter text := by
  cases attempt with
  | noExpression noCall noNumber =>
      rw [← Identifier.split?_eq_none_iff]
      cases noCall with
      | noTarget split => simp [split]
      | notOpened split head => simp [split, Identifier.text]
      | notClosed split arguments rest_eq head => simp [split]

theorem Attempt.taken_eq_nil_iff_of_argumentList
    (attempt : Attempt (.once .argumentList) text (.broken label taken) height) :
    taken = [] ↔ HeadFails isLetter text := by
  cases attempt with
  | noFirst attempt => exact attempt.taken_eq_nil_iff_of_expression

theorem Attempt.taken_eq_nil_iff_of_trailingArgument
    (attempt : Attempt (.once .trailingArgument) text (.broken label taken) height) :
    taken = [] ↔ text.head? ≠ some ',' := by
  cases attempt with
  | noComma head => simp [head]
  | noArgument attempt => simp

/-- The position behind an opening parenthesis, as an offset. -/
theorem offset_forward_of_split? {name : Identifier}
    (split : Identifier.split? cursor.rest = some (name, '(' :: rest)) :
    (cursor.forward (name.text.length + 1)).offset = cursor.offset + (name.text.length + 1) := by
  have text_eq : cursor.rest = (name.text ++ ['(']) ++ rest := by
    rw [(Identifier.eq_append_of_split? split).1]
    simp
  have start_eq := Cursor.offset_forward_of_eq_append text_eq
  rwa [List.length_append, List.length_singleton] at start_eq

/-- A primitive fails where a broken attempt is reported. -/
theorem Attempt.failsPast_of_broken {symbol : Symbol} {levels : Nat} {outcome : Outcome}
    (attempt : Attempt (.once symbol) cursor.rest (.broken label taken) height)
    (settled : Settled environment levels (.rule symbol.rule) cursor outcome moments)
    (nonempty : taken ≠ []) : FailsPast cursor.offset moments := by
  obtain ⟨found, reported, -⟩ := attempt.simulates cursor rfl
  obtain ⟨rest, text_eq⟩ := attempt.taken_isPrefix
  obtain rfl := reported.unique settled
  obtain ⟨reader, mem⟩ := reported.failure_mem (isPlain_rule _)
  exact ⟨reader, _, mem, (remaining_forward_lt text_eq.symm nonempty).2⟩

/-! ## How far the failures of an attempt get -/

/-- The history of the parser of a phrase at a position, from some depth on. -/
def Tells (cursor : Cursor) (moments : List Moment) : Phrase → Prop
  | .once symbol =>
      ∃ levels outcome,
        Settled environment levels (.rule symbol.rule) cursor outcome moments
  | .optionalArguments =>
      ∃ levels outcome,
        Settled environment levels (.optional (.rule "argument_list")) cursor outcome moments
  | .trailingArguments =>
      ∃ levels values next,
        RepetitionSettled environment levels (.rule "trailing_arg") cursor values next moments

/--
No failure is past the end of a complete attempt unless its phrase could have gone on, and none is
past the start of an attempt that breaks there.
-/
def Reaches (cursor : Cursor) (moments : List Moment) (rest : List Char) :
    {phrase : Phrase} → Ending phrase → Prop
  | _, .complete derivation =>
      FailsPast (cursor.offset + derivation.text.length) moments ↔ derivation.GoesOn rest
  | _, .broken _ taken => taken = [] → ¬ FailsPast cursor.offset moments

theorem Reaches.not_failsPast {phrase : Phrase} {derivation : Derivation phrase}
    (reached : Reaches cursor moments rest (.complete derivation))
    (stops : ¬ derivation.GoesOn rest) (le : cursor.offset + derivation.text.length ≤ offset) :
    ¬ FailsPast offset moments :=
  fun past => stops (reached.mp (past.mono le))

theorem reaches_of_not_failsPast {symbol : Symbol} (ordinary : symbol ≠ .argumentList)
    {derivation : Derivation (.once symbol)}
    (none : ¬ FailsPast (cursor.offset + derivation.text.length) moments) (rest : List Char) :
    Reaches cursor moments rest (.complete derivation) :=
  iff_of_false none (derivation.not_goesOn ordinary rest)

/-- Wherever a text stands, the failures of its attempt get as far as the ending says. -/
def Confined {phrase : Phrase} (text : List Char) (ending : Ending phrase) : Prop :=
  ∀ cursor : Cursor, cursor.rest = text → ∀ rest, text = ending.taken ++ rest →
    ∀ moments, Tells cursor moments phrase → Reaches cursor moments rest ending

theorem confined_of_taken_ne_nil {phrase : Phrase} (text : List Char) (label : String)
    (nonempty : taken ≠ []) : Confined text (.broken label taken : Ending phrase) :=
  fun _ _ _ _ _ _ empty => absurd empty nonempty

theorem confined_trailingArgument {argument : Derivation (.once .expression)}
    (attempt : Attempt (.once .expression) text (.complete argument) height)
    (confined : Confined text (Ending.complete argument)) :
    Confined (',' :: text) (.complete (.trailingArgument argument)) := by
  rintro cursor text_eq rest taken_eq moments ⟨levels, outcome, settled⟩
  obtain ⟨behind, -⟩ := rest_forward_of_comma text_eq
  obtain ⟨inner, inside, -⟩ := attempt.simulates _ behind
  obtain rfl := settled.unique (settled_trailingArgument text_eq inside)
  have reached := confined _ behind rest (List.cons.inj taken_eq).2 inner ⟨_, _, inside⟩
  have start_eq : (cursor.forward 1).offset = cursor.offset + 1 :=
    Cursor.offset_forward_of_eq_append (show cursor.rest = [','] ++ text from text_eq)
  have none : ¬ FailsPast (cursor.offset + (Derivation.trailingArgument argument).text.length)
      inner := by
    apply reached.not_failsPast (argument.not_goesOn (by decide) rest)
    rw [Derivation.text, List.length_cons]
    omega
  apply reaches_of_not_failsPast (by decide)
  simp [none]

/-- Behind the end of a list, failures are those of what follows its first part. -/
theorem failsPast_list_iff {symbol : Symbol} {first : Derivation (.once symbol)}
    {others : Derivation .trailingArguments} {after : List Char}
    (text_eq : cursor.rest = first.text ++ after) (stops : ¬ first.GoesOn after)
    (reached : Reaches cursor moments after (.complete first))
    (furtherReached : Reaches (cursor.forward first.text.length) further rest (.complete others)) :
    FailsPast (cursor.offset + (first.text ++ others.text).length) (moments ++ further) ↔
      rest.head? = some ',' := by
  have start_eq := Cursor.offset_forward_of_eq_append text_eq
  have none := reached.not_failsPast stops
    (show _ ≤ cursor.offset + (first.text ++ others.text).length by
      rw [List.length_append]
      omega)
  rw [Reaches, start_eq, Nat.add_assoc, ← List.length_append, others.goesOn_trailingArguments]
    at furtherReached
  rw [failsPast_append, or_iff_right none, furtherReached]

theorem confined_argumentList {first : Derivation (.once .expression)}
    {others : Derivation .trailingArguments} {after : List Char} {furtherHeight : Nat}
    (attempt : Attempt (.once .expression) text (.complete first) height)
    (text_eq : text = first.text ++ after)
    (furtherAttempt : Attempt .trailingArguments after (.complete others) furtherHeight)
    (confined : Confined text (Ending.complete first))
    (furtherConfined : Confined after (Ending.complete others)) :
    Confined text (.complete (.argumentList first others)) := by
  rintro cursor rfl rest taken_eq moments ⟨levels, outcome, settled⟩
  have behind := Cursor.rest_forward_of_eq_append text_eq
  have after_eq : after = others.text ++ rest := rest_eq_of_list text_eq taken_eq
  obtain ⟨inner, inside, -⟩ := attempt.simulates cursor rfl
  obtain ⟨furtherInner, furtherInside, -⟩ := furtherAttempt.simulates _ behind
  obtain rfl := settled.unique
    (settled_argumentList (inside.mono (Nat.le_max_left _ _))
      (furtherInside.many.mono (Nat.le_max_right _ _)))
  have list := failsPast_list_iff text_eq (first.not_goesOn (by decide) after)
    (confined cursor rfl after text_eq inner ⟨_, _, inside⟩)
    (furtherConfined _ behind rest after_eq furtherInner ⟨_, _, _, furtherInside⟩)
  rw [Reaches, Derivation.text, Derivation.GoesOn, ← list]
  simp

theorem confined_more {first : Derivation (.once .trailingArgument)}
    {others : Derivation .trailingArguments} {after : List Char} {furtherHeight : Nat}
    (attempt : Attempt (.once .trailingArgument) text (.complete first) height)
    (text_eq : text = first.text ++ after)
    (furtherAttempt : Attempt .trailingArguments after (.complete others) furtherHeight)
    (confined : Confined text (Ending.complete first))
    (furtherConfined : Confined after (Ending.complete others)) :
    Confined text (.complete (.more first others)) := by
  rintro cursor rfl rest taken_eq moments ⟨levels, values, next, settled⟩
  have behind := Cursor.rest_forward_of_eq_append text_eq
  have after_eq : after = others.text ++ rest := rest_eq_of_list text_eq taken_eq
  obtain ⟨inner, inside, -⟩ := attempt.simulates cursor rfl
  obtain ⟨furtherInner, furtherInside, -⟩ := furtherAttempt.simulates _ behind
  obtain ⟨shorter, progress⟩ := remaining_forward_lt text_eq first.text_ne_nil
  obtain rfl := settled.unique
    ((inside.mono (Nat.le_max_left _ _)).repetition_again progress shorter
      (furtherInside.mono (Nat.le_max_right _ _)))
  exact failsPast_list_iff text_eq (first.not_goesOn (by decide) after)
    (confined cursor rfl after text_eq inner ⟨_, _, inside⟩)
    (furtherConfined _ behind rest after_eq furtherInner ⟨_, _, _, furtherInside⟩)

theorem confined_call {name : Identifier} {arguments : Derivation .optionalArguments}
    {inside after : List Char} (split : Identifier.split? text = some (name, '(' :: inside))
    (attempt : Attempt .optionalArguments inside (.complete arguments) height)
    (inside_eq : inside = arguments.text ++ ')' :: after)
    (confined : Confined inside (Ending.complete arguments)) :
    Confined text (.complete (.call (.identifier name) arguments)) := by
  rintro cursor rfl rest - moments ⟨levels, outcome, settled⟩
  obtain ⟨behind, -⟩ := rest_forward_of_split? split
  obtain ⟨inner, ran, -⟩ := attempt.simulates _ behind
  have closing := Cursor.rest_forward_of_eq_append (behind.trans inside_eq)
  obtain rfl := settled.unique (settled_call split ran closing)
  have reached := confined _ behind _ inside_eq inner ⟨_, _, ran⟩
  have start_eq := offset_forward_of_split? split
  have none : ¬ FailsPast
      (cursor.offset + (Derivation.call (.identifier name) arguments).text.length) inner := by
    apply reached.not_failsPast (arguments.not_goesOn_closing after)
    simp only [Derivation.text, List.length_append, List.length_cons]
    omega
  apply reaches_of_not_failsPast (by decide)
  simp [none]

/-- A call in vain in front of a number takes nothing. -/
theorem Attempt.taken_eq_nil_of_number {inner : Derivation (.once .numberLiteral)}
    {numberHeight : Nat} (noCall : Attempt (.once .call) text (.broken label taken) height)
    (attempt : Attempt (.once .numberLiteral) text (.complete inner) numberHeight) :
    taken = [] := by
  cases attempt with
  | numberLiteral number =>
      cases noCall with
      | noTarget _ => rfl
      | notOpened split _ | notClosed split _ _ _ =>
          rw [split?_eq_none_of_identifier split] at number
          contradiction

theorem confined_ofNumber {inner : Derivation (.once .numberLiteral)} {numberHeight : Nat}
    (noCall : Attempt (.once .call) text (.broken label taken) height)
    (attempt : Attempt (.once .numberLiteral) text (.complete inner) numberHeight)
    (confined : Confined text (.broken label taken : Ending (.once .call)))
    (numberConfined : Confined text (Ending.complete inner)) :
    Confined text (.complete (.ofNumber inner)) := by
  obtain rfl := noCall.taken_eq_nil_of_number attempt
  rintro cursor rfl rest taken_eq moments ⟨levels, outcome, settled⟩
  obtain ⟨callMoments, call, -⟩ := noCall.simulates cursor rfl
  obtain ⟨numberMoments, number, -⟩ := attempt.simulates cursor rfl
  obtain rfl := settled.unique
    (settled_ofNumber (call.mono (Nat.le_max_left _ _)) (number.mono (Nat.le_max_right _ _)))
  have noneStarts := confined cursor rfl cursor.rest rfl callMoments ⟨_, _, call⟩ rfl
  have reached := numberConfined cursor rfl rest taken_eq numberMoments ⟨_, _, number⟩
  have none : ¬ FailsPast (cursor.offset + (Derivation.ofNumber inner).text.length) callMoments :=
    fun past => noneStarts (past.mono (Nat.le_add_right _ _))
  have noneNumber : ¬ FailsPast (cursor.offset + (Derivation.ofNumber inner).text.length)
      numberMoments :=
    reached.not_failsPast (inner.not_goesOn (by decide) rest) (Nat.le_refl _)
  apply reaches_of_not_failsPast (by decide)
  simp [none, noneNumber]

/-- Behind its start an expression that breaks fails where its call does. -/
theorem exists_failsPast_call_iff {levels : Nat} {outcome : Outcome}
    (noCall : Attempt (.once .call) cursor.rest (.broken label taken) height)
    (split : Literal.split? cursor.rest = none)
    (settled : Settled environment levels (.rule "expr") cursor outcome moments)
    (le : cursor.offset ≤ offset) :
    ∃ callMoments, Tells cursor callMoments (.once .call) ∧
      (FailsPast offset moments ↔ FailsPast offset callMoments) := by
  obtain ⟨callMoments, call, -⟩ := noCall.simulates cursor rfl
  have number := settled_noNumber split
  obtain rfl := settled.unique
    (settled_noExpression (call.mono (Nat.le_max_left _ _)) (number.mono (Nat.le_max_right _ _)))
  have inside : ¬ offset < cursor.offset := Nat.not_lt.mpr le
  exact ⟨callMoments, ⟨_, _, call⟩, by simp [inside]⟩

/-- Where an attempt breaks, failures are past its start exactly if it has taken something. -/
theorem failsPast_iff_of_broken {symbol : Symbol} {levels : Nat} {outcome : Outcome}
    (attempt : Attempt (.once symbol) cursor.rest (.broken label taken) height)
    (confined : Confined cursor.rest (.broken label taken : Ending (.once symbol)))
    (settled : Settled environment levels (.rule symbol.rule) cursor outcome moments) :
    FailsPast cursor.offset moments ↔ taken ≠ [] := by
  obtain ⟨rest, text_eq⟩ := attempt.taken_isPrefix
  constructor
  · intro past empty
    exact confined cursor rfl rest text_eq.symm moments ⟨_, _, settled⟩ empty past
  · exact attempt.failsPast_of_broken settled

/-- The failures of an attempt get as far as its ending says. -/
theorem Attempt.confined {phrase : Phrase} {text : List Char} {ending : Ending phrase}
    {height : Nat} (attempt : Attempt phrase text ending height) : Confined text ending := by
  induction attempt with
  | identifier split =>
      rintro cursor rfl rest - moments ⟨levels, outcome, settled⟩
      obtain rfl := settled.unique (settled_identifier split)
      exact reaches_of_not_failsPast (by decide) (by simp) rest
  | noIdentifier split =>
      rintro cursor rfl rest - moments ⟨levels, outcome, settled⟩ -
      obtain rfl := settled.unique (settled_noIdentifier split)
      simp
  | numberLiteral split =>
      rintro cursor rfl rest - moments ⟨levels, outcome, settled⟩
      obtain rfl := settled.unique (settled_number split)
      exact reaches_of_not_failsPast (by decide) (by simp) rest
  | noNumber split =>
      rintro cursor rfl rest - moments ⟨levels, outcome, settled⟩ -
      obtain rfl := settled.unique (settled_noNumber split)
      simp
  | trailingArgument attempt induction => exact confined_trailingArgument attempt induction
  | noComma head =>
      rintro cursor rfl rest - moments ⟨levels, outcome, settled⟩ -
      obtain rfl := settled.unique (settled_noComma head)
      simp
  | noArgument _ _ => exact confined_of_taken_ne_nil _ _ (List.cons_ne_nil _ _)
  | argumentList attempt text_eq further induction furtherInduction =>
      exact confined_argumentList attempt text_eq further induction furtherInduction
  | noFirst attempt induction =>
      rintro cursor rfl rest taken_eq moments ⟨levels, outcome, settled⟩ empty
      obtain ⟨inner, inside, -⟩ := attempt.simulates cursor rfl
      obtain rfl := settled.unique (settled_noFirst inside)
      have none := induction cursor rfl rest taken_eq inner ⟨_, _, inside⟩ empty
      simp [none]
  | call split attempt rest_eq induction => exact confined_call split attempt rest_eq induction
  | noTarget split =>
      rintro cursor rfl rest - moments ⟨levels, outcome, settled⟩ -
      obtain rfl := settled.unique (settled_noTarget split)
      simp
  | notOpened _ _ => exact confined_of_taken_ne_nil _ _ (List.cons_ne_nil _ _)
  | notClosed _ _ _ _ _ => exact confined_of_taken_ne_nil _ _ (by simp)
  | @ofCall _ call _ attempt induction =>
      rintro cursor rfl rest taken_eq moments ⟨levels, outcome, settled⟩
      obtain ⟨inner, inside, -⟩ := attempt.simulates cursor rfl
      obtain rfl := settled.unique (settled_ofCall inside)
      have reached := induction cursor rfl rest taken_eq inner ⟨_, _, inside⟩
      have none : ¬ FailsPast (cursor.offset + (Derivation.ofCall call).text.length) inner :=
        reached.not_failsPast (call.not_goesOn (by decide) rest) (Nat.le_refl _)
      exact reaches_of_not_failsPast (by decide) (by simp [none]) rest
  | ofNumber noCall attempt induction numberInduction =>
      exact confined_ofNumber noCall attempt induction numberInduction
  | noExpression noCall noNumber induction _ =>
      rintro cursor rfl rest taken_eq moments ⟨levels, outcome, settled⟩ empty
      cases noNumber with
      | noNumber split =>
          obtain ⟨inner, tells, past_iff⟩ :=
            exists_failsPast_call_iff noCall split settled (Nat.le_refl _)
          rw [past_iff]
          exact induction cursor rfl rest taken_eq inner tells empty
  | noArguments attempt induction =>
      rintro cursor rfl rest rest_eq moments ⟨levels, outcome, settled⟩
      obtain ⟨inner, inside, -⟩ := attempt.simulates cursor rfl
      obtain rfl := settled.unique inside.optional
      obtain rfl : cursor.rest = rest := rest_eq
      exact (failsPast_iff_of_broken attempt induction inside).trans
        (not_congr attempt.taken_eq_nil_iff_of_argumentList)
  | @someArguments _ arguments _ attempt induction =>
      rintro cursor rfl rest taken_eq moments ⟨levels, outcome, settled⟩
      obtain ⟨inner, inside, -⟩ := attempt.simulates cursor rfl
      obtain rfl := settled.unique inside.optional
      have reached := induction cursor rfl rest taken_eq moments ⟨_, _, inside⟩
      cases arguments
      exact reached
  | noMore attempt induction =>
      rintro cursor rfl rest rest_eq moments ⟨levels, values, next, settled⟩
      obtain ⟨inner, inside, -⟩ := attempt.simulates cursor rfl
      obtain rfl := settled.unique inside.repetition_stop
      obtain rfl : cursor.rest = rest := rest_eq
      have comma := (not_congr attempt.taken_eq_nil_iff_of_trailingArgument).trans not_not
      exact (failsPast_iff_of_broken attempt induction inside).trans comma
  | more attempt text_eq further induction furtherInduction =>
      exact confined_more attempt text_eq further induction furtherInduction

/-! ## Reports of a permissive reader -/

variable {reader : Reader} {source : Source} {failure : Failure}

theorem Reader.checkLimits_of_outcome {outcome : Outcome}
    (answer : reader.outcome source = .ok outcome) : reader.checkLimits source = .ok () := by
  rw [Reader.outcome] at answer
  split at answer
  · contradiction
  · assumption

/-- The arguments of a call that is not closed, and the text behind them, are the only ones. -/
theorem goesOn_iff_of_openText {name : Identifier} {arguments : Derivation .optionalArguments}
    {inside after : List Char} (split : Identifier.split? text = some (name, '(' :: inside))
    (inside_eq : inside = arguments.text ++ after) :
    arguments.GoesOn after ↔
      ∃ (target : Derivation (.once .identifier)) (others : Derivation .optionalArguments)
          (behind : List Char),
        text = openText target others ++ behind ∧
          (openText target others).length = (openText (.identifier name) arguments).length ∧
          others.GoesOn behind := by
  have text_eq : text = openText (.identifier name) arguments ++ after := by
    rw [(Identifier.eq_append_of_split? split).1, inside_eq]
    simp [openText, Derivation.text]
  constructor
  · intro goesOn
    exact ⟨.identifier name, arguments, after, text_eq, rfl, goesOn⟩
  · rintro ⟨target, others, behind, others_eq, length_eq, goesOn⟩
    obtain ⟨same, behind_eq⟩ :=
      List.append_inj (others_eq.symm.trans text_eq) length_eq
    obtain ⟨rfl, -⟩ := eq_of_openText_isPrefix split ⟨behind, others_eq.symm⟩
    have arguments_eq : others.text = arguments.text :=
      (List.cons.inj (List.append_cancel_left same)).2
    obtain rfl := Derivation.eq_of_text_eq arguments_eq
    rwa [behind_eq] at goesOn

theorem split?_openText (name : Identifier) (arguments : Derivation .optionalArguments)
    (after : List Char) :
    Identifier.split? (openText (.identifier name) arguments ++ after) =
      some (name, '(' :: (arguments.text ++ after)) := by
  have opening : HeadFails isNameCharacter ('(' :: (arguments.text ++ after)) :=
    headFails_cons rfl _
  have text_eq : openText (.identifier name) arguments ++ after =
      name.text ++ '(' :: (arguments.text ++ after) := by
    simp [openText, Derivation.text]
  rw [text_eq, name.split?_append opening]

/-- A text that begins with arguments to go on with begins with a target and an opening mark. -/
theorem exists_split?_of_openText {target : Derivation (.once .identifier)}
    {arguments : Derivation .optionalArguments} {after : List Char}
    (text_eq : text = openText target arguments ++ after) :
    ∃ name inside, Identifier.split? text = some (name, '(' :: inside) := by
  cases target with
  | identifier name => exact ⟨name, _, text_eq ▸ split?_openText name arguments after⟩

/--
Where an expression breaks, a primitive fails behind the reported place exactly if this is where the
arguments of a call could have gone on.
-/
theorem failsPast_report_iff {levels : Nat} {outcome : Outcome}
    (attempt : Attempt (.once .expression) cursor.rest (.broken label taken) height)
    (settled : Settled environment levels (.rule "expr") cursor outcome moments) :
    FailsPast (cursor.offset + taken.length) moments ↔
      ∃ (target : Derivation (.once .identifier)) (arguments : Derivation .optionalArguments)
          (after : List Char),
        cursor.rest = openText target arguments ++ after ∧
          (openText target arguments).length = taken.length ∧ arguments.GoesOn after := by
  cases attempt with
  | noExpression noCall noNumber =>
      cases noNumber with
      | noNumber noLiteral =>
          obtain ⟨inner, ⟨callLevels, callOutcome, call⟩, past_iff⟩ :=
            exists_failsPast_call_iff noCall noLiteral settled
              (Nat.le_add_right cursor.offset taken.length)
          rw [past_iff]
          cases noCall with
          | noTarget split =>
              obtain rfl := call.unique (settled_noTarget split)
              apply iff_of_false
              · simp
              · rintro ⟨target, arguments, after, text_eq, -, -⟩
                obtain ⟨name, inside, opened⟩ := exists_split?_of_openText text_eq
                rw [split] at opened
                contradiction
          | @notOpened _ rest name split head =>
              have end_eq := Cursor.offset_forward_of_eq_append
                (Identifier.eq_append_of_split? split).1
              obtain rfl := call.unique (settled_notOpened split head)
              apply iff_of_false
              · simp [end_eq]
              · rintro ⟨target, arguments, after, text_eq, -, -⟩
                obtain ⟨name, inside, opened⟩ := exists_split?_of_openText text_eq
                rw [split] at opened
                obtain ⟨-, rfl⟩ := Prod.mk.inj (Option.some.inj opened)
                exact head rfl
          | @notClosed _ inside after name arguments _ split attempt inside_eq head =>
              obtain ⟨behind, -⟩ := rest_forward_of_split? split
              have start_eq := offset_forward_of_split? split
              obtain ⟨argumentMoments, ran, -⟩ := attempt.simulates _ behind
              have after_eq := Cursor.rest_forward_of_eq_append (behind.trans inside_eq)
              have end_eq := Cursor.offset_forward_of_eq_append (behind.trans inside_eq)
              obtain rfl := call.unique (settled_notClosed split ran (after_eq ▸ head))
              have reached := attempt.confined _ behind after inside_eq argumentMoments ⟨_, _, ran⟩
              have length_eq : cursor.offset + (name.text ++ '(' :: arguments.text).length =
                  (cursor.forward (name.text.length + 1)).offset + arguments.text.length := by
                rw [start_eq, List.length_append, List.length_cons]
                omega
              rw [length_eq]
              refine Iff.trans ?_ (goesOn_iff_of_openText split inside_eq)
              refine Iff.trans ?_ reached
              simp [end_eq]

/--
The failure that a permissive reader reports is met by a primitive, and no primitive fails behind it
during the run unless it is where the arguments of the outermost call stop in front of text with
which they could have gone on.  Exactly then a failure inside an argument is dropped.
-/
theorem furthest_failure_iff (reader : Reader) (source : Source) (failure : Failure)
    (permissive : reader.strict = false)
    (failed : reader.outcome source = .ok (.failed failure)) :
    (∃ primitive,
        .failed primitive failure ∈ expression.historyAt environment (Cursor.start source)) ∧
      ((∀ primitive other,
          .failed primitive other ∈ expression.historyAt environment (Cursor.start source) →
            other.offset ≤ failure.offset) ↔
        ¬ ∃ (target : Derivation (.once .identifier)) (arguments : Derivation .optionalArguments)
            (after : List Char),
          source.chars = openText target arguments ++ after ∧
            (openText target arguments).length = failure.offset ∧ arguments.GoesOn after) := by
  obtain ⟨ending, height, attempt⟩ := Attempt.attempted (.once .expression) source.chars
  rw [Reader.outcome_eq (Reader.checkLimits_of_outcome failed) attempt, permissive] at failed
  cases ending with
  | complete derivation => simp [Ending.judged] at failed
  | broken label taken =>
      obtain rfl := Outcome.failed.inj (Except.ok.inj failed)
      obtain ⟨moments, settled, -⟩ := attempt.simulates (Cursor.start source) rfl
      have told : expression.historyAt environment (Cursor.start source) = moments :=
        settled.historyAt (le_sufficientDepth _ _ (by decide))
      obtain ⟨rest, text_eq⟩ := attempt.taken_isPrefix
      have end_eq : ((Cursor.start source).forward taken.length).offset = taken.length :=
        (Cursor.offset_forward_of_eq_append text_eq.symm).trans (Nat.zero_add _)
      have report := failsPast_report_iff attempt settled
      rw [show (Cursor.start source).offset + taken.length = taken.length from Nat.zero_add _]
        at report
      rw [told]
      refine ⟨settled.failure_mem (isPlain_rule _), ?_⟩
      rw [Failure.offset, end_eq]
      refine Iff.trans ?_ (not_congr report)
      simp only [FailsPast, not_exists, not_and, Nat.not_lt]

/-- Of two failures in the last argument of an open call the one that got less far is reported. -/
theorem failure_behind_report_of_broken_argument :
    let source : Source := ⟨['f', '(', '1', ',', 'g'], 5, rfl⟩
    let failure : Failure := ⟨")", (Cursor.start source).forward 3⟩
    Reader.standard.outcome source = .ok (.failed failure) ∧
      ∃ primitive other,
        .failed primitive other ∈ expression.historyAt environment (Cursor.start source) ∧
          failure.offset < other.offset := by
  intro source failure
  have limits : Reader.standard.checkLimits source = .ok () := by
    rw [Reader.checkLimits_eq_ok_iff]
    decide +kernel
  have failed : Reader.standard.outcome source = .ok (.failed failure) := by
    rw [Reader.outcome, limits]
    rfl
  obtain ⟨-, furthest_iff⟩ := furthest_failure_iff Reader.standard source failure rfl failed
  let target : Derivation (.once .identifier) := .identifier ⟨'f', [], rfl, rfl⟩
  let one : Literal := ⟨none, ['1'], none, by simp, by decide, rfl, by simp⟩
  let arguments : Derivation .optionalArguments :=
    .someArguments (.argumentList (.ofNumber (.numberLiteral one)) .noMore)
  refine ⟨failed, ?_⟩
  by_contra none
  refine furthest_iff.mp ?_ ⟨target, arguments, [',', 'g'], rfl, rfl, rfl⟩
  intro primitive other mem
  exact Nat.not_lt.mp fun past => none ⟨primitive, other, mem, past⟩

end Call
end Descent
