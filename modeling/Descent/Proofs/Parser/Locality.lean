import Descent.Proofs.Parser.Mirror
import Descent.Proofs.Parser.Occurrence
import Descent.Proofs.Pattern.Translation

/-!
# What precedes a position

A parser without functions of the position and without anchors at the start looks at the text that
is left and at nothing else.  Behind some more characters it answers the same, with all positions
moved by their number: in particular what it compares, the offsets of two failures or of the start
and the end of a match, is moved together.  The rules for call expressions are such parsers.
-/

namespace Descent

namespace Cursor

/-- The same position of a text with some more characters in front. -/
def behind (before : List Char) (cursor : Cursor) : Cursor where
  source := Source.ofList (before ++ cursor.source.chars)
  offset := before.length + cursor.offset
  rest := cursor.rest
  offset_le := by
    have inside := cursor.offset_le
    rw [cursor.source.size_eq] at inside
    rw [Source.size_ofList, List.length_append]
    exact Nat.add_le_add_left inside _
  rest_eq := by
    rw [Source.chars_ofList, List.drop_length_add_append, cursor.rest_eq]

variable (before : List Char) (cursor : Cursor)

theorem size_behind :
    (cursor.behind before).source.size = before.length + cursor.source.size := by
  rw [cursor.source.size_eq]
  exact List.length_append

@[simp]
theorem remaining_behind : (cursor.behind before).remaining = cursor.remaining := by
  rw [remaining, size_behind]
  exact Nat.add_sub_add_left _ _ _

@[simp]
theorem isAtEnd_behind : (cursor.behind before).isAtEnd = cursor.isAtEnd := by
  rw [isAtEnd, size_behind]
  exact decide_eq_decide.mpr Nat.add_le_add_iff_left

theorem forward_behind (count : Nat) :
    (cursor.behind before).forward count = (cursor.forward count).behind before := by
  apply ext
  · rfl
  · have moved : (cursor.behind before).offset = before.length + cursor.offset := rfl
    have result : ((cursor.forward count).behind before).offset =
        before.length + (cursor.forward count).offset := rfl
    rw [result, offset_forward, offset_forward, size_behind, moved]
    omega

/-- Every position is the start of the text that is left, behind the text before it. -/
theorem behind_start_rest :
    (start (Source.ofList cursor.rest)).behind (cursor.source.chars.take cursor.offset) =
      cursor := by
  apply ext
  · apply Source.ext
    change cursor.source.chars.take cursor.offset ++ cursor.rest = cursor.source.chars
    rw [cursor.rest_eq, List.take_append_drop]
  · change (cursor.source.chars.take cursor.offset).length + 0 = cursor.offset
    rw [Nat.add_zero, List.length_take, ← cursor.source.size_eq, Nat.min_eq_left cursor.offset_le]

end Cursor

/-- The same failure in a text with some more characters in front. -/
def Failure.behind (before : List Char) (failure : Failure) : Failure :=
  ⟨failure.expected, failure.cursor.behind before⟩

/-- The same outcome in a text with some more characters in front. -/
def Outcome.behind (before : List Char) : Outcome → Outcome
  | matched value next => matched value (next.behind before)
  | failed failure => failed (failure.behind before)

namespace Action

/-! ## Actions that look at the text that is left -/

/-- Behind some more characters, an action answers the same with all positions moved. -/
def IsLocal (action : Action) : Prop :=
  ∀ before cursor session other,
    (action (cursor.behind before) other).1 =
      (action cursor session).1.map (Outcome.behind before)

variable {before : List Char} {cursor : Cursor} {session after : Session} {action : Action}

theorem IsLocal.exists_moved (isLocal : action.IsLocal) {answer : Except Fault Outcome}
    (ran : action cursor session = (answer, after)) (before : List Char) (other : Session) :
    ∃ later, action (cursor.behind before) other =
      (answer.map (Outcome.behind before), later) := by
  have moved := isLocal before cursor session other
  rw [ran] at moved
  exact ⟨_, Prod.ext moved rfl⟩

theorem isLocal_raise (fault : Fault) : (raise fault).IsLocal := fun _ _ _ _ => rfl

theorem isLocal_literal (text : String) : (literal text).IsLocal := by
  intro before cursor session other
  have starts : (cursor.behind before).startsWith text.toList =
      cursor.startsWith text.toList := rfl
  simp only [literal, starts, Cursor.forward_behind]
  split <;> rfl

theorem isLocal_pattern {described : Pattern} (free : described.isAnchorFree = true)
    (label : String) : (pattern described label).IsLocal := by
  intro before cursor session other
  have moved : described.matchEnd? (cursor.behind before).offset (cursor.behind before).rest =
      (described.matchEnd? cursor.offset cursor.rest).map (before.length + ·) :=
    Pattern.matchEnd?_add free before.length cursor.offset cursor.rest
  simp only [pattern, moved]
  cases described.matchEnd? cursor.offset cursor.rest with
  | none => rfl
  | some stop =>
      have count_eq : before.length + stop - (cursor.behind before).offset =
          stop - cursor.offset := Nat.add_sub_add_left _ _ _
      simp only [Option.map_some, count_eq, Cursor.forward_behind]
      rfl

theorem isLocal_endOfInput : endOfInput.IsLocal := by
  intro before cursor session other
  simp only [endOfInput, Cursor.isAtEnd_behind]
  split <;> rfl

theorem IsLocal.optional (isLocal : action.IsLocal) : (optional action).IsLocal := by
  intro before cursor session other
  simp only [Action.optional]
  rcases ran : action cursor session with ⟨fault | ⟨value, next⟩ | failure, after⟩ <;>
    obtain ⟨later, moved⟩ := isLocal.exists_moved ran before other <;>
    rw [moved] <;> rfl

theorem IsLocal.transform (isLocal : action.IsLocal) (function : Value → Value) :
    (transform function action).IsLocal := by
  intro before cursor session other
  simp only [Action.transform]
  rcases ran : action cursor session with ⟨fault | ⟨value, next⟩ | failure, after⟩ <;>
    obtain ⟨later, moved⟩ := isLocal.exists_moved ran before other <;>
    rw [moved] <;> rfl

theorem IsLocal.traced (isLocal : action.IsLocal) (name : String) :
    (traced name action).IsLocal := by
  intro before cursor session other
  simp only [Action.traced]
  rcases ran : action cursor (session.note (.trying name cursor.offset)) with
    ⟨fault | outcome, after⟩ <;>
    obtain ⟨later, moved⟩ := isLocal.exists_moved ran before _ <;>
    rw [moved] <;> rfl

/-- A body that is run in another session. -/
theorem IsLocal.inSession (isLocal : action.IsLocal) (change : Cursor → Session → Session) :
    IsLocal fun cursor session => action cursor (change cursor session) :=
  fun before cursor _ _ => isLocal before cursor _ _

/-- The failure that got furthest stays the same when all failures are moved. -/
theorem furthest_behind (before : List Char) (earlier : Option Failure) (failure : Failure) :
    furthest (earlier.map (Failure.behind before)) (failure.behind before) =
      (furthest earlier failure).behind before := by
  cases earlier with
  | none => rfl
  | some first =>
      have less : (first.behind before).offset < (failure.behind before).offset ↔
          first.offset < failure.offset := Nat.add_lt_add_iff_left
      simp only [furthest, Option.map_some, less]
      split <;> rfl

theorem isLocal_anyOfFrom {actions : List Action}
    (areLocal : ∀ action ∈ actions, action.IsLocal) (earlier : Option Failure)
    (before : List Char) (cursor : Cursor) (session other : Session) :
    (anyOfFrom (earlier.map (Failure.behind before)) actions (cursor.behind before) other).1 =
      (anyOfFrom earlier actions cursor session).1.map (Outcome.behind before) := by
  -- The failures of earlier alternatives lie in the text as well, and are moved with it.
  induction actions generalizing earlier session other with
  | nil => cases earlier <;> rfl
  | cons action actions induction =>
      obtain ⟨head, tail⟩ := List.forall_mem_cons.mp areLocal
      simp only [anyOfFrom]
      rcases ran : action cursor session with ⟨fault | ⟨value, next⟩ | failure, after⟩ <;>
        obtain ⟨later, moved⟩ := head.exists_moved ran before other <;>
        rw [moved]
      · rfl
      · rfl
      · simp only [Except.map, Outcome.behind, furthest_behind]
        exact induction tail (some (furthest earlier failure)) after later

theorem isLocal_sequenceFrom {actions : List Action}
    (areLocal : ∀ action ∈ actions, action.IsLocal) (values : List Value) :
    (sequenceFrom values actions).IsLocal := by
  induction actions generalizing values with
  | nil => exact fun _ _ _ _ => rfl
  | cons action actions induction =>
      obtain ⟨head, tail⟩ := List.forall_mem_cons.mp areLocal
      intro before cursor session other
      simp only [sequenceFrom]
      rcases ran : action cursor session with ⟨fault | ⟨value, next⟩ | failure, after⟩ <;>
        obtain ⟨later, moved⟩ := head.exists_moved ran before other <;>
        rw [moved]
      · rfl
      · exact induction tail (value :: values) before next after later
      · rfl

theorem IsLocal.manyFrom (isLocal : action.IsLocal) (bound : Nat) (values : List Value) :
    (manyFrom action bound values).IsLocal := by
  induction bound generalizing values with
  | zero => exact isLocal_raise .unbounded
  | succ bound induction =>
      intro before cursor session other
      simp only [Action.manyFrom]
      rcases ran : action cursor session with ⟨fault | ⟨value, next⟩ | failure, after⟩ <;>
        obtain ⟨later, moved⟩ := isLocal.exists_moved ran before other <;>
        rw [moved]
      · rfl
      · have same : (next.behind before).offset = (cursor.behind before).offset ↔
            next.offset = cursor.offset := Nat.add_left_cancel_iff
        simp only [Except.map, Outcome.behind, same]
        split
        · rfl
        · exact induction (value :: values) before next after later
      · rfl

theorem IsLocal.many (isLocal : action.IsLocal) : (many action).IsLocal := by
  intro before cursor session other
  rw [Action.many, Action.many, Cursor.remaining_behind]
  exact isLocal.manyFrom _ [] before cursor session other

end Action

namespace Parser

/-! ## Parsers that look at the text that is left -/

/-- Neither a function of the position nor an anchor at the start of the text is in a parser. -/
structure IsUnanchored (environment : Environment) (parser : Parser) : Prop where
  plain : parser.IsPlain environment
  free {described : Pattern} {label : String}
    (occurs : Occurs environment (pattern described label) parser) :
    described.isAnchorFree = true

variable {environment : Environment} {part parser : Parser}

theorem IsUnanchored.of_part (unanchored : parser.IsUnanchored environment)
    (isPart : Part environment part parser) : part.IsUnanchored environment where
  plain := unanchored.plain.of_part isPart
  free occurs := unanchored.free (occurs.tail isPart)

theorem IsUnanchored.isLocal (unanchored : parser.IsUnanchored environment) (depth : Nat) :
    (runWithin environment depth parser).IsLocal := by
  induction depth generalizing parser with
  | zero => exact Action.isLocal_raise .unbounded
  | succ depth induction =>
      have body {part : Parser} (isPart : Part environment part parser) :
          (runWithin environment depth part).IsLocal := induction (unanchored.of_part isPart)
      cases parser with
      | literal text => exact Action.isLocal_literal text
      | pattern described label => exact Action.isLocal_pattern (unanchored.free .refl) label
      | endOfInput => exact Action.isLocal_endOfInput
      | primitive answer => exact absurd .refl (unanchored.plain answer)
      | anyOf alternatives =>
          exact Action.isLocal_anyOfFrom
            (List.forall_mem_map.mpr fun _ mem => body (.alternative mem)) none
      | optional inner => exact (body (.optional inner)).optional
      | many inner => exact (body (.many inner)).many
      | sequence steps =>
          exact Action.isLocal_sequenceFrom
            (List.forall_mem_map.mpr fun _ mem => body (.step mem)) []
      | transform function inner => exact (body (.transform function inner)).transform function
      | traced name inner =>
          simp only [runWithin]
          split
          · exact (body (.traced name inner)).traced name
          · exact body (.traced name inner)
      | observed tag inner => exact (body (.observed tag inner)).inSession _
      | deferred cell tag references product =>
          cases product with
          | error fault =>
              simp only [runWithin, Action.deferred_error]
              exact fun _ _ _ _ => rfl
          | ok inner =>
              simp only [runWithin, Action.deferred_ok]
              exact (body (.product cell tag references inner)).inSession _
      | rule name =>
          simp only [runWithin]
          split
          · exact Action.isLocal_raise _
          · rename_i found
            exact body (.rule found)

/-! ## Positions -/

/--
Behind some more characters the answers are the same with all positions moved.  So they are the
answers to the text that is left by itself, moved behind the text that precedes it.
-/
structure IsPositionFree (answer : Cursor → Except Fault Outcome) : Prop where
  behind (before : List Char) (cursor : Cursor) :
    answer (cursor.behind before) = (answer cursor).map (Outcome.behind before)
  ofRest (cursor : Cursor) :
    answer cursor =
      (answer (Cursor.start (Source.ofList cursor.rest))).map
        (Outcome.behind (cursor.source.chars.take cursor.offset))

theorem IsUnanchored.isPositionFree (unanchored : parser.IsUnanchored environment) :
    IsPositionFree (parser.outcomeAt environment) := by
  have moved (before : List Char) (cursor : Cursor) :
      parser.outcomeAt environment (cursor.behind before) =
        (parser.outcomeAt environment cursor).map (Outcome.behind before) := by
    have depth_eq : sufficientDepth environment parser (cursor.behind before) =
        sufficientDepth environment parser cursor := by
      rw [sufficientDepth, sufficientDepth, Cursor.remaining_behind]
    rw [outcomeAt, run, depth_eq]
    exact unanchored.isLocal _ before cursor .fresh .fresh
  refine ⟨moved, fun cursor => ?_⟩
  rw [← moved, Cursor.behind_start_rest]

/-- The rules for call expressions have no anchor. -/
theorem isUnanchored_rule (name : String) : (rule name).IsUnanchored Call.environment where
  plain := isPlain_of_terms (by decide) rfl
  free {described label} occurs := by
    rcases occurs.node_or_rule with inside | ⟨name, body, found, inside⟩
    · simp [occurs_rule, Environment.empty] at inside
    · have mem := RuleSet.mem_of_lookup found
      simp only [Call.environment, RuleSet.environment, Call.grammar, Call.rules, List.mem_cons,
        Prod.mk.injEq, List.not_mem_nil, or_false] at mem
      rcases mem with ⟨-, rfl⟩ | ⟨-, rfl⟩ | ⟨-, rfl⟩ | ⟨-, rfl⟩ | ⟨-, rfl⟩ | ⟨-, rfl⟩ <;>
        simp [occurs_pattern, occurs_transform, occurs_sequence, occurs_many, occurs_optional,
          occurs_anyOf, occurs_literal, occurs_rule, Environment.empty] at inside
      · rw [inside.1]
        rfl
      · rw [inside.1]
        rfl

/--
Parsing does not depend on the position.  The outcome of a parser without anchors, with its value or
its label, is the same in every longer text that ends in the same way, and all positions in it are
moved; what precedes the position is of no account.  So it is with the rules for call expressions:
an argument is parsed inside a call as it is by itself with the same text behind it.
-/
theorem parsing_is_position_independent :
    (∀ (environment : Environment) (parser : Parser), parser.IsUnanchored environment →
      IsPositionFree (parser.outcomeAt environment)) ∧
    ∀ rule : String, IsPositionFree (Call.ruleOutcome rule) :=
  ⟨fun _ _ unanchored => unanchored.isPositionFree,
    fun rule => (isUnanchored_rule rule).isPositionFree⟩

/-- What follows an identifier and a mark is missed further on when they are an argument. -/
theorem outcome_of_mark_inside_call :
    let parser := sequence
      [.pattern Call.identifierPattern "identifier", .optional (.literal "(" (by decide)),
        .endOfInput]
    let start := Cursor.start (Source.ofList ['f', '(', '1'])
    let before := ['g', '(']
    parser.IsUnanchored .empty ∧
      parser.outcomeAt .empty start = .ok (.failed ⟨endOfInputLabel, start.forward 2⟩) ∧
      parser.outcomeAt .empty (start.behind before) =
        .ok (.failed ⟨endOfInputLabel, (start.forward 2).behind before⟩) := by
  intro parser start before
  have unanchored : parser.IsUnanchored .empty :=
    { plain := isPlain_of_terms (by decide) (by decide)
      free := fun {described label} occurs => by
        simp [parser, occurs_sequence, occurs_pattern, occurs_optional, occurs_literal,
          occurs_endOfInput] at occurs
        rw [occurs.1]
        rfl }
  have alone : parser.outcomeAt .empty start =
      .ok (.failed ⟨endOfInputLabel, start.forward 2⟩) := rfl
  refine ⟨unanchored, alone, ?_⟩
  rw [(parsing_is_position_independent.1 .empty parser unanchored).behind before start, alone]
  rfl

end Parser
end Descent
