import Descent.Proofs.Call.Reading

/-!
# Failure reports of the call grammar

A source within the limits of a reader can fail in four ways, told apart by what stands at the
front of it.  Whatever breaks inside an argument is reported where the complete arguments of the
outermost call end.
-/

namespace Descent
namespace Call

/-- The ways in which reading an expression fails. -/
inductive FailureKind where
  /-- Neither a target nor a number is found. -/
  | noStart
  /-- A target is not followed by an opening parenthesis. -/
  | notOpened
  /-- The arguments of the outermost call are not followed by a closing parenthesis. -/
  | notClosed
  /-- An expression is followed by more text. -/
  | trailing
  deriving DecidableEq, Repr

/-- The label that a failure reports. -/
def FailureKind.label : FailureKind → String
  | noStart => "identifier"
  | notOpened => "("
  | notClosed => ")"
  | trailing => endOfInputLabel

/-- The text of a call up to the end of its arguments. -/
def openText (target : Derivation (.once .identifier)) (arguments : Derivation .optionalArguments) :
    List Char :=
  target.text ++ '(' :: arguments.text

/-- What stands at the front of a source that fails in a given way, with the offset where. -/
inductive Reader.FailsAt (reader : Reader) (source : Source) : FailureKind → Nat → Prop where
  | noStart (noLetter : HeadFails isLetter source.chars)
      (noNumber : ∀ literal : Literal, ¬ literal.text <+: source.chars) :
      FailsAt reader source .noStart 0
  | notOpened {name : Identifier} {rest : List Char} (text_eq : source.chars = name.text ++ rest)
      (ends : HeadFails isNameCharacter rest) (head : rest.head? ≠ some '(') :
      FailsAt reader source .notOpened name.text.length
  | notClosed {target : Derivation (.once .identifier)} {arguments : Derivation .optionalArguments}
      (noCall : ∀ call : Derivation (.once .call), ¬ call.text <+: source.chars)
      (isPrefix : openText target arguments <+: source.chars)
      (length_le : ∀ otherTarget otherArguments,
        openText otherTarget otherArguments <+: source.chars →
          (openText otherTarget otherArguments).length ≤ (openText target arguments).length) :
      FailsAt reader source .notClosed (openText target arguments).length
  | trailing {derivation : Derivation (.once .expression)} (strict : reader.strict = true)
      (isLongest : IsLongest source.chars derivation)
      (shorter : derivation.text.length < source.size) :
      FailsAt reader source .trailing derivation.text.length

variable {reader : Reader} {source : Source} {text rest after taken : List Char} {height : Nat}
  {label : String}

/-! ## From an attempt to the way it fails -/

theorem not_isPrefix_of_split?_eq_none (split : Literal.split? text = none) (literal : Literal) :
    ¬ literal.text <+: text := by
  rintro ⟨rest, rfl⟩
  obtain ⟨longer, after, found, -⟩ := literal.exists_split?_append rest
  rw [split] at found
  contradiction

/-- The name in front of an opening parenthesis is all of the longest name. -/
theorem eq_of_openText_isPrefix {name : Identifier} {otherTarget : Derivation (.once .identifier)}
    {otherArguments : Derivation .optionalArguments}
    (split : Identifier.split? text = some (name, '(' :: rest))
    (isPrefix : openText otherTarget otherArguments <+: text) :
    otherTarget = .identifier name ∧ otherArguments.text <+: rest := by
  cases otherTarget with
  | identifier other =>
      obtain ⟨after, rfl⟩ := isPrefix
      have opening : HeadFails isNameCharacter ('(' :: (otherArguments.text ++ after)) :=
        headFails_cons rfl _
      have text_eq : openText (.identifier other) otherArguments ++ after =
          other.text ++ '(' :: (otherArguments.text ++ after) := by
        simp [openText, Derivation.text]
      rw [text_eq, other.split?_append opening] at split
      obtain ⟨rfl, rest_eq⟩ := Prod.mk.inj (Option.some.inj split)
      exact ⟨rfl, ⟨after, (List.cons.inj rest_eq).2⟩⟩

/-- The complete arguments of an attempt are the longest behind the opening parenthesis. -/
theorem length_openText_le {name : Identifier} {arguments : Derivation .optionalArguments}
    (split : Identifier.split? text = some (name, '(' :: rest))
    (attempt : Attempt .optionalArguments rest (.complete arguments) height)
    (otherTarget : Derivation (.once .identifier))
    (otherArguments : Derivation .optionalArguments)
    (isPrefix : openText otherTarget otherArguments <+: text) :
    (openText otherTarget otherArguments).length ≤
      (openText (.identifier name) arguments).length := by
  obtain ⟨rfl, inside⟩ := eq_of_openText_isPrefix split isPrefix
  have := attempt.length_le_of_isPrefix otherArguments inside
  simp only [openText, List.length_append, List.length_cons]
  omega

theorem openText_isPrefix {name : Identifier} {arguments : Derivation .optionalArguments}
    (split : Identifier.split? text = some (name, '(' :: rest))
    (rest_eq : rest = arguments.text ++ after) :
    openText (.identifier name) arguments <+: text := by
  refine ⟨after, ?_⟩
  rw [(Identifier.eq_append_of_split? split).1, rest_eq]
  simp [openText, Derivation.text]

/-- A broken attempt at an expression fails in one of the first three ways. -/
theorem Reader.exists_failsAt_of_broken (reader : Reader)
    (attempt : Attempt (.once .expression) source.chars (.broken label taken) height) :
    ∃ kind, kind.label = label ∧ reader.FailsAt source kind taken.length := by
  cases attempt with
  | noExpression noCall noNumber =>
      have notCall := noCall.not_isPrefix_of_broken
      cases noCall with
      | noTarget split =>
          cases noNumber with
          | noNumber noLiteral =>
              exact ⟨.noStart, rfl, .noStart ((Identifier.split?_eq_none_iff _).mp split)
                (not_isPrefix_of_split?_eq_none noLiteral)⟩
      | notOpened split head =>
          obtain ⟨text_eq, ends⟩ := Identifier.eq_append_of_split? split
          exact ⟨.notOpened, rfl, .notOpened text_eq ends head⟩
      | notClosed split arguments rest_eq head =>
          exact ⟨.notClosed, rfl, .notClosed notCall (openText_isPrefix split rest_eq)
            (length_openText_le split arguments)⟩

/-- Every failure within the limits is one of the four. -/
theorem Reader.exists_failsAt {failure : Failure} (limits : reader.checkLimits source = .ok ())
    (failed : reader.outcome source = .ok (.failed failure)) :
    ∃ kind offset, reader.FailsAt source kind offset ∧ failure.expected = kind.label ∧
      failure.cursor = (Cursor.start source).forward offset := by
  obtain ⟨ending, height, attempt⟩ := Attempt.attempted (.once .expression) source.chars
  rw [Reader.outcome_eq limits attempt] at failed
  cases ending with
  | broken label taken =>
      obtain ⟨kind, rfl, fails⟩ := reader.exists_failsAt_of_broken attempt
      obtain rfl := Outcome.failed.inj (Except.ok.inj failed)
      exact ⟨kind, taken.length, fails, rfl, rfl⟩
  | complete derivation =>
      obtain ⟨rest, text_eq⟩ := attempt.exists_rest
      rw [Ending.judged] at failed
      split at failed
      · rename_i trailing
        obtain rfl := Outcome.failed.inj (Except.ok.inj failed)
        have more : rest ≠ [] := by
          intro empty
          have atEnd := (isAtEnd_forward_iff (Cursor.start source) text_eq).mpr empty
          rw [trailing.2] at atEnd
          contradiction
        have shorter : derivation.text.length < source.size := by
          have positive := List.length_pos_iff.mpr more
          rw [source.size_eq, text_eq, List.length_append]
          omega
        exact ⟨.trailing, _, .trailing trailing.1 attempt.isLongest shorter, rfl, rfl⟩
      · simp at failed

/-! ## From what stands in a source to its attempt -/

/-- The attempt at an expression in front of which a call breaks. -/
theorem Attempt.broken_of_call
    (noCall : Attempt (.once .call) text (.broken label taken) height)
    (noNumber : Literal.split? text = none) :
    Attempt (.once .expression) text (.broken label taken) height := by
  have attempt := Attempt.noExpression noCall (.noNumber noNumber)
  rwa [Nat.max_zero] at attempt

/-- No number stands where an identifier stands. -/
theorem split?_eq_none_of_identifier {name : Identifier}
    (split : Identifier.split? text = some (name, rest)) : Literal.split? text = none := by
  cases found : Literal.split? text with
  | none => rfl
  | some parts =>
      have noLetter := headFails_literal parts.1 parts.2
      rw [← Literal.eq_append_of_split? found] at noLetter
      rw [(Identifier.split?_eq_none_iff text).mpr noLetter] at split
      contradiction

/-- What stands at the front of a source decides how reading it fails. -/
theorem Reader.FailsAt.outcome_eq {kind : FailureKind} {offset : Nat}
    (limits : reader.checkLimits source = .ok ()) (fails : reader.FailsAt source kind offset) :
    reader.outcome source = .ok (.failed ⟨kind.label, (Cursor.start source).forward offset⟩) := by
  cases fails with
  | noStart noLetter noNumber =>
      have noLiteral : Literal.split? source.chars = none := by
        cases found : Literal.split? source.chars with
        | none => rfl
        | some parts =>
            exact absurd ⟨parts.2, (Literal.eq_append_of_split? found).symm⟩ (noNumber parts.1)
      have noTarget := (Identifier.split?_eq_none_iff source.chars).mpr noLetter
      exact Reader.outcome_eq limits (.broken_of_call (.noTarget noTarget) noLiteral)
  | @notOpened name rest text_eq ends head =>
      have split := name.split?_append ends
      rw [← text_eq] at split
      exact Reader.outcome_eq limits
        (.broken_of_call (.notOpened split head) (split?_eq_none_of_identifier split))
  | @notClosed target arguments noCall isPrefix length_le =>
      cases target with
      | identifier name =>
          obtain ⟨after, text_eq⟩ := isPrefix
          have opening : HeadFails isNameCharacter ('(' :: (arguments.text ++ after)) :=
            headFails_cons rfl _
          have split := name.split?_append opening
          have chars_eq : name.text ++ '(' :: (arguments.text ++ after) = source.chars := by
            rw [← text_eq]
            simp [openText, Derivation.text]
          rw [chars_eq] at split
          obtain ⟨ending, height, attempt⟩ :=
            Attempt.attempted .optionalArguments (arguments.text ++ after)
          obtain ⟨found, rfl⟩ := attempt.exists_complete_of_ne_once (by simp)
          obtain ⟨behind, rest_eq⟩ := attempt.exists_rest
          have unclosed : behind.head? ≠ some ')' := by
            intro closed
            obtain ⟨outside, rfl⟩ := List.head?_eq_some_iff.mp closed
            exact noCall _ (Attempt.call split attempt rest_eq).taken_isPrefix
          have length_eq : (name.text ++ '(' :: found.text).length =
              (openText (.identifier name) arguments).length :=
            Nat.le_antisymm (length_le (.identifier name) found (openText_isPrefix split rest_eq))
              (length_openText_le split attempt (.identifier name) arguments ⟨after, text_eq⟩)
          rw [← length_eq]
          exact Reader.outcome_eq limits
            (.broken_of_call (.notClosed split attempt rest_eq unclosed)
              (split?_eq_none_of_identifier split))
  | @trailing derivation strict isLongest shorter =>
      obtain ⟨ending, height, attempt⟩ := Attempt.attempted (.once .expression) source.chars
      cases ending with
      | broken label taken =>
          exact absurd isLongest.isPrefix (attempt.not_isPrefix_of_broken derivation)
      | complete found =>
          have length_eq : found.text.length = derivation.text.length :=
            Nat.le_antisymm (isLongest.length_le found attempt.taken_isPrefix)
              (attempt.length_le_of_isPrefix derivation isLongest.isPrefix)
          have inside :
              ((Cursor.start source).forward derivation.text.length).isAtEnd = false := by
            rw [Cursor.isAtEnd, decide_eq_false_iff_not, Cursor.source_forward,
              Cursor.offset_forward]
            simp only [Cursor.start]
            omega
          rw [Reader.outcome_eq limits attempt, Ending.judged, length_eq,
            if_pos ⟨strict, inside⟩, FailureKind.label]

theorem Reader.FailsAt.offset_le {kind : FailureKind} {offset : Nat}
    (fails : reader.FailsAt source kind offset) : offset ≤ source.size := by
  rw [source.size_eq]
  cases fails with
  | noStart _ _ => exact Nat.zero_le _
  | notOpened text_eq _ _ =>
      rw [text_eq, List.length_append]
      exact Nat.le_add_right _ _
  | notClosed _ isPrefix _ => exact isPrefix.length_le
  | trailing _ isLongest _ => exact isLongest.isPrefix.length_le

/-- The ways to fail exclude one another, and each has one offset. -/
theorem Reader.FailsAt.unique {kind other : FailureKind} {offset otherOffset : Nat}
    (limits : reader.checkLimits source = .ok ()) (fails : reader.FailsAt source kind offset)
    (otherFails : reader.FailsAt source other otherOffset) :
    kind = other ∧ offset = otherOffset := by
  have answers := (fails.outcome_eq limits).symm.trans (otherFails.outcome_eq limits)
  obtain ⟨label_eq, cursor_eq⟩ := Failure.mk.inj (Outcome.failed.inj (Except.ok.inj answers))
  constructor
  · cases kind <;> cases other <;> first | rfl | exact absurd label_eq (by decide)
  · have offset_eq := congrArg Cursor.offset cursor_eq
    have := fails.offset_le
    have := otherFails.offset_le
    simp only [Cursor.offset_forward, Cursor.start] at offset_eq
    omega

theorem FailureKind.label_not_mem (kind : FailureKind) :
    kind.label ∉ ["number", ",", noAlternativeLabel] := by
  cases kind <;> decide

/--
The exact failure report of a reader within its limits: a failure is of exactly one kind, with its
label at the only offset where that kind can be, and whatever is of a kind fails like that.
-/
theorem failure_report (reader : Reader) (source : Source)
    (limits : reader.checkLimits source = .ok ()) :
    (∀ failure, reader.outcome source = .ok (.failed failure) →
        (∃ kind,
          reader.FailsAt source kind failure.offset ∧ failure.expected = kind.label ∧
            ∀ other offset, reader.FailsAt source other offset →
              other = kind ∧ offset = failure.offset) ∧
          failure.cursor.source = source ∧ failure.offset ≤ source.size ∧
          failure.expected ∉ ["number", ",", noAlternativeLabel]) ∧
      ∀ kind offset, reader.FailsAt source kind offset →
        ∃ failure, reader.outcome source = .ok (.failed failure) ∧
          failure.expected = kind.label ∧ failure.offset = offset := by
  have offset_start {kind : FailureKind} {offset : Nat}
      (fails : reader.FailsAt source kind offset) :
      ((Cursor.start source).forward offset).offset = offset := by
    have := fails.offset_le
    rw [Cursor.offset_forward, Cursor.start, Nat.zero_add, Nat.min_eq_left this]
  constructor
  · intro failure failed
    obtain ⟨kind, offset, fails, label_eq, cursor_eq⟩ := Reader.exists_failsAt limits failed
    have offset_eq : failure.offset = offset := by
      rw [Failure.offset, cursor_eq, offset_start fails]
    refine ⟨⟨kind, offset_eq ▸ fails, label_eq, ?_⟩, ?_, ?_, ?_⟩
    · intro other otherOffset otherFails
      rw [offset_eq]
      exact otherFails.unique limits fails
    · rw [cursor_eq, Cursor.source_forward, Cursor.start]
    · rw [offset_eq]
      exact fails.offset_le
    · rw [label_eq]
      exact kind.label_not_mem
  · intro kind offset fails
    exact ⟨_, fails.outcome_eq limits, rfl, offset_start fails⟩

/-- An argument that breaks off is reported where the complete arguments of the call end. -/
theorem failure_report_of_broken_argument :
    let source := Source.ofString "f(1,g"
    let reader := Reader.configure true none none
    reader.checkLimits source = .ok () ∧
      ∃ failure, reader.outcome source = .ok (.failed failure) ∧ failure.expected = ")" ∧
        failure.offset = 3 := by
  intro source reader
  have limits : reader.checkLimits source = .ok () := by
    rw [Reader.checkLimits_eq_ok_iff]
    decide +kernel
  let name (letter : Char) (isLetter_letter : isLetter letter = true) : Identifier :=
    ⟨letter, [], isLetter_letter, rfl⟩
  let one : Literal := ⟨none, ['1'], none, nofun, by decide, rfl, nofun⟩
  have outer : Identifier.split? source.chars = some (name 'f' rfl, ['(', '1', ',', 'g']) := rfl
  have inner : Identifier.split? ['g'] = some (name 'g' rfl, []) := rfl
  have number : Literal.split? ['1', ',', 'g'] = some (one, [',', 'g']) := rfl
  have argument : Attempt (.once .expression) ['g'] (.broken "(" ['g']) 0 :=
    .broken_of_call (.notOpened inner (by decide)) rfl
  have arguments : Attempt .optionalArguments ['1', ',', 'g'] _ _ :=
    .someArguments (.argumentList (.ofNumber_of_split? number) rfl (.noMore (.noArgument argument)))
  have call : Attempt (.once .call) source.chars (.broken ")" ['f', '(', '1']) _ :=
    .notClosed outer arguments rfl (by decide)
  obtain ⟨kind, label_eq, fails⟩ := reader.exists_failsAt_of_broken (.broken_of_call call rfl)
  obtain ⟨failure, failed, expected, offset⟩ :=
    (failure_report reader source limits).2 kind _ fails
  exact ⟨limits, failure, failed, expected.trans label_eq, offset⟩

end Call
end Descent
