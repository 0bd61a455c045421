import Mathlib.Data.Fintype.Card
import Descent.RuleSet
import Descent.Proofs.Parser.Fault
import Descent.Proofs.Parser.Occurrence
import Descent.Proofs.Parser.SufficientDepth
import Descent.Proofs.Pattern.Extent

/-!
# Grammars without left recursion

A rule calls another one on its left if it may run it before it has taken text.  If no rule calls
itself on its left, directly or through other rules, then every run ends: it is not cut off at the
depth that it is given.  A run that is cut off contains another one that is cut off one level below.
That one starts further on in the text, or it is the run of a part on the left; text ends, and so
does the way down on the left.
-/

namespace Descent

theorem Cursor.Precedes.antisymm {first second : Cursor} (ahead : first.Precedes second)
    (offset_le : second.offset ≤ first.offset) : second = first :=
  Cursor.ext ahead.source_eq (Nat.le_antisymm offset_le ahead.offset_le)

theorem Cursor.Precedes.remaining_lt {first second : Cursor} (ahead : first.Precedes second)
    (further : second ≠ first) : second.remaining < first.remaining := by
  have moved : first.offset < second.offset :=
    Nat.lt_of_not_le fun offset_le => further (ahead.antisymm offset_le)
  have bound := second.offset_le
  simp only [Cursor.remaining, ahead.source_eq] at bound ⊢
  omega

theorem Cursor.Precedes.remaining_le {first second : Cursor} (ahead : first.Precedes second) :
    second.remaining ≤ first.remaining := by
  rw [remaining, remaining, ahead.source_eq]
  exact Nat.sub_le_sub_left ahead.offset_le _

namespace Action

/-! ## Actions that rest or are cut off -/

/-- An action may match at a position without taking text. -/
def Rests (action : Action) (cursor : Cursor) : Prop :=
  ∃ session value after, action cursor session = (.ok (.matched value cursor), after)

/-- A run of an action at a position is cut off. -/
def IsCutOff (action : Action) (cursor : Cursor) : Prop :=
  ∃ session, (action cursor session).1 = .error .unbounded

variable {cursor next : Cursor} {session after : Session} {value : Value}

theorem exists_matched_of_anyOfFrom {actions : List Action} {earlier : Option Failure}
    (ran : anyOfFrom earlier actions cursor session = (.ok (.matched value next), after)) :
    ∃ action ∈ actions, ∃ session value after,
      action cursor session = (.ok (.matched value next), after) := by
  induction actions generalizing earlier session with
  | nil => cases ran
  | cons action actions induction =>
      simp only [anyOfFrom] at ran
      rcases tried : action cursor session with ⟨fault | ⟨first, reached⟩ | failure, later⟩ <;>
        rw [tried] at ran
      · cases ran
      · cases ran
        exact ⟨action, List.mem_cons_self, session, _, _, tried⟩
      · obtain ⟨other, mem, matched⟩ := induction ran
        exact ⟨other, List.mem_cons_of_mem _ mem, matched⟩

theorem exists_isCutOff_of_anyOfFrom {actions : List Action} {earlier : Option Failure}
    (ran : (anyOfFrom earlier actions cursor session).1 = .error .unbounded) :
    ∃ action ∈ actions, action.IsCutOff cursor := by
  induction actions generalizing earlier session with
  | nil => cases ran
  | cons action actions induction =>
      simp only [anyOfFrom] at ran
      rcases tried : action cursor session with ⟨fault | ⟨first, reached⟩ | failure, later⟩ <;>
        rw [tried] at ran
      · exact ⟨action, List.mem_cons_self, session, by rw [tried, ← ran]⟩
      · cases ran
      · obtain ⟨other, mem, cut⟩ := induction ran
        exact ⟨other, List.mem_cons_of_mem _ mem, cut⟩

/-- A concatenation ends behind its start; if it ends there, all its steps rest. -/
theorem precedes_of_sequenceFrom {actions : List Action} {values : List Value}
    (forward : ∀ action ∈ actions, action.GoesForward)
    (ran : sequenceFrom values actions cursor session = (.ok (.matched value next), after)) :
    cursor.Precedes next ∧ (next = cursor → ∀ action ∈ actions, action.Rests cursor) := by
  induction actions generalizing values cursor session with
  | nil =>
      cases ran
      exact ⟨.refl _, fun _ _ mem => absurd mem List.not_mem_nil⟩
  | cons action actions induction =>
      simp only [sequenceFrom] at ran
      rcases tried : action cursor session with ⟨fault | ⟨first, reached⟩ | failure, later⟩ <;>
        rw [tried] at ran
      · cases ran
      · have ahead := forward action List.mem_cons_self _ _ _ _ _ tried
        obtain ⟨onward, rest⟩ :=
          induction (fun other mem => forward other (List.mem_cons_of_mem _ mem)) ran
        refine ⟨ahead.trans onward, fun same => ?_⟩
        have reached_eq : reached = cursor := ahead.antisymm (same ▸ onward.offset_le)
        rw [reached_eq] at tried rest
        exact List.forall_mem_cons.mpr ⟨⟨session, first, later, tried⟩, rest same⟩
      · cases ran

/-- The step of a concatenation that is cut off, and where; up to there the steps match. -/
theorem exists_isCutOff_of_sequenceFrom {α : Type} {parts : List α} {run : α → Action}
    {values : List Value} (forward : ∀ part ∈ parts, (run part).GoesForward)
    (ran : (sequenceFrom values (parts.map run) cursor session).1 = .error .unbounded) :
    ∃ before part behind next, parts = before ++ part :: behind ∧ cursor.Precedes next ∧
      (run part).IsCutOff next ∧
        (next = cursor → ∀ earlier ∈ before, (run earlier).Rests cursor) := by
  induction parts generalizing values cursor session with
  | nil => cases ran
  | cons part parts induction =>
      simp only [List.map_cons, sequenceFrom] at ran
      rcases tried : run part cursor session with ⟨fault | ⟨first, reached⟩ | failure, later⟩ <;>
        rw [tried] at ran
      · exact ⟨[], part, parts, cursor, rfl, .refl cursor, ⟨session, by rw [tried, ← ran]⟩,
          fun _ _ mem => absurd mem List.not_mem_nil⟩
      · have ahead := forward part List.mem_cons_self _ _ _ _ _ tried
        obtain ⟨before, other, behind, next, rfl, onward, cut, rest⟩ :=
          induction (fun other mem => forward other (List.mem_cons_of_mem _ mem)) ran
        refine ⟨part :: before, other, behind, next, rfl, ahead.trans onward, cut, fun same => ?_⟩
        have reached_eq : reached = cursor := ahead.antisymm (same ▸ onward.offset_le)
        rw [reached_eq] at tried rest
        exact List.forall_mem_cons.mpr ⟨⟨session, first, later, tried⟩, rest same⟩
      · cases ran

/-- A repetition with more attempts than characters left is cut off with its body only. -/
theorem exists_isCutOff_of_manyFrom {action : Action} (forward : action.GoesForward) {bound : Nat}
    (room : cursor.remaining < bound) {values : List Value}
    (ran : (manyFrom action bound values cursor session).1 = .error .unbounded) :
    ∃ next, cursor.Precedes next ∧ action.IsCutOff next := by
  induction bound generalizing values cursor session with
  | zero => exact absurd room (Nat.not_lt_zero _)
  | succ bound induction =>
      simp only [manyFrom] at ran
      rcases tried : action cursor session with ⟨fault | ⟨first, reached⟩ | failure, later⟩ <;>
        rw [tried] at ran
      · exact ⟨cursor, .refl cursor, session, by rw [tried, ← ran]⟩
      · have ahead := forward _ _ _ _ _ tried
        dsimp only at ran
        split at ran
        · cases ran
        · rename_i moved
          have shorter := ahead.remaining_lt fun same => moved (by rw [same])
          obtain ⟨next, onward, cut⟩ := induction (by omega) ran
          exact ⟨next, ahead.trans onward, cut⟩
      · cases ran

end Action

namespace Parser

/-! ## Left recursion -/

/-- A parser may match without taking text. -/
inductive MayTakeNothing (environment : Environment) : Parser → Prop where
  | pattern {described : Pattern} (empty : described.matchEnd? 0 [] = some 0) (label : String) :
      MayTakeNothing environment (pattern described label)
  | endOfInput : MayTakeNothing environment endOfInput
  | anyOf {alternative : Parser} {alternatives : List Parser} (mem : alternative ∈ alternatives)
      (may : MayTakeNothing environment alternative) :
      MayTakeNothing environment (anyOf alternatives)
  | optional (body : Parser) : MayTakeNothing environment (optional body)
  | many (body : Parser) : MayTakeNothing environment (many body)
  | sequence {steps : List Parser} (may : ∀ step ∈ steps, MayTakeNothing environment step) :
      MayTakeNothing environment (sequence steps)
  | transform (function : Value → Value) {body : Parser}
      (may : MayTakeNothing environment body) :
      MayTakeNothing environment (transform function body)
  | traced (name : String) {body : Parser} (may : MayTakeNothing environment body) :
      MayTakeNothing environment (traced name body)
  | observed (tag : String) {body : Parser} (may : MayTakeNothing environment body) :
      MayTakeNothing environment (observed tag body)
  | product (cell : Nat) (tag : String) (references : List String) {body : Parser}
      (may : MayTakeNothing environment body) :
      MayTakeNothing environment (deferred cell tag references (.ok body))
  | rule {name : String} {body : Parser} (found : environment.rules.lookup name = some body)
      (may : MayTakeNothing environment body) : MayTakeNothing environment (rule name)

/-- A direct part of a parser may be run before the parser has taken text. -/
inductive LeftPart (environment : Environment) : Parser → Parser → Prop where
  | alternative {parser : Parser} {alternatives : List Parser} (mem : parser ∈ alternatives) :
      LeftPart environment parser (anyOf alternatives)
  | optional (body : Parser) : LeftPart environment body (optional body)
  | many (body : Parser) : LeftPart environment body (many body)
  | step {before : List Parser} (may : ∀ earlier ∈ before, MayTakeNothing environment earlier)
      (step : Parser) (behind : List Parser) :
      LeftPart environment step (sequence (before ++ step :: behind))
  | transform (function : Value → Value) (body : Parser) :
      LeftPart environment body (transform function body)
  | traced (name : String) (body : Parser) : LeftPart environment body (traced name body)
  | observed (tag : String) (body : Parser) : LeftPart environment body (observed tag body)
  | product (cell : Nat) (tag : String) (references : List String) (body : Parser) :
      LeftPart environment body (deferred cell tag references (.ok body))

/-- A reference to a rule may be run before a parser has taken text. -/
def LeftReaches (environment : Environment) (name : String) (parser : Parser) : Prop :=
  Relation.ReflTransGen (LeftPart environment) (rule name) parser

/-- A defined rule has a reference to a defined rule that may be run before it has taken text. -/
def LeftCalls (environment : Environment) (caller callee : String) : Prop :=
  environment.rules.lookup callee ≠ none ∧
    ∃ body, environment.rules.lookup caller = some body ∧ LeftReaches environment callee body

/-- Some rule calls itself on its left, directly or through other rules. -/
def IsLeftRecursive (environment : Environment) : Prop :=
  ∃ name, Relation.TransGen (LeftCalls environment) name name

/-- No construction of a deferred parser that occurs in a parser fails. -/
def IsBuildable (environment : Environment) (parser : Parser) : Prop :=
  ∀ cell tag references fault,
    ¬ Occurs environment (deferred cell tag references (.error fault)) parser

variable {environment : Environment} {part parser : Parser} {depth room : Nat}
  {cursor next : Cursor}

theorem IsBuildable.of_part (buildable : parser.IsBuildable environment)
    (isPart : Part environment part parser) : part.IsBuildable environment :=
  fun cell tag references fault occurs =>
    buildable cell tag references fault (occurs.tail isPart)

theorem IsBuildable.of_occurs (buildable : parser.IsBuildable environment)
    (occurs : Occurs environment part parser) : part.IsBuildable environment :=
  fun cell tag references fault inner =>
    buildable cell tag references fault (inner.trans occurs)

theorem LeftPart.isPart (isLeft : LeftPart environment part parser) :
    Part environment part parser := by
  cases isLeft with
  | alternative mem => exact .alternative mem
  | optional => exact .optional part
  | many => exact .many part
  | step may step behind => exact .step (List.mem_append_right _ List.mem_cons_self)
  | transform function => exact .transform function part
  | traced name => exact .traced name part
  | observed tag => exact .observed tag part
  | product cell tag references => exact .product cell tag references part

theorem IsBuildable.of_nodes
    (rules : ∀ name body, environment.rules.lookup name = some body → body.IsBuildable .empty)
    (buildable : parser.IsBuildable .empty) : parser.IsBuildable environment := by
  intro cell tag references fault occurs
  rcases occurs.node_or_rule with inside | ⟨name, body, found, inside⟩
  · exact buildable cell tag references fault inside
  · exact rules name body found cell tag references fault inside

theorem eq_or_mayTakeNothing_of_leftPart {step : Parser} {steps : List Parser}
    (isLeft : LeftPart environment part (sequence (step :: steps))) :
    part = step ∨ MayTakeNothing environment step := by
  generalize whole : sequence (step :: steps) = parser at isLeft
  cases isLeft with
  | @step before may _ behind =>
      injection whole with whole
      cases before with
      | nil => exact .inl (List.cons.inj whole).1.symm
      | cons first before =>
          rw [(List.cons.inj whole).1]
          exact .inr (may first List.mem_cons_self)
  | _ => cases whole

theorem not_leftReaches_literal {name text : String} {nonempty : text ≠ ""} :
    ¬ LeftReaches environment name (literal text nonempty) := by
  intro reaches
  obtain same | ⟨_, -, isLeft⟩ := Relation.ReflTransGen.cases_tail reaches
  · cases same
  · cases isLeft

theorem eq_of_leftReaches_rule {name callee : String}
    (reaches : LeftReaches environment callee (rule name)) : name = callee := by
  obtain same | ⟨_, -, isLeft⟩ := Relation.ReflTransGen.cases_tail reaches
  · injection same
  · cases isLeft

/-! ## Matches that take nothing -/

theorem not_rests_literal {text : String} (nonempty : text ≠ "") :
    ¬ (Action.literal text).Rests cursor := by
  rintro ⟨session, value, after, ran⟩
  have nonzero : text.toList.length ≠ 0 := by simpa using nonempty
  simp only [Action.literal] at ran
  split at ran
  · rename_i starts
    have fits := (List.isPrefixOf_iff_prefix.mp starts).length_le
    rw [cursor.length_rest, Cursor.remaining] at fits
    injection ran with outcome_eq
    injection outcome_eq with outcome_eq
    injection outcome_eq with _ next_eq
    have offset_eq := congrArg Cursor.offset next_eq
    rw [Cursor.offset_forward] at offset_eq
    omega
  · cases ran

theorem matchEnd?_of_rests {described : Pattern} {label : String}
    (rests : (Action.pattern described label).Rests cursor) :
    described.matchEnd? 0 [] = some 0 := by
  obtain ⟨session, value, after, ran⟩ := rests
  simp only [Action.pattern] at ran
  split at ran
  · cases ran
  · rename_i stop matched
    obtain ⟨count, fits, rfl, empty⟩ := Pattern.exists_count_of_matchEnd? matched
    rw [cursor.length_rest, Cursor.remaining] at fits
    injection ran with outcome_eq
    injection outcome_eq with outcome_eq
    injection outcome_eq with _ next_eq
    have offset_eq := congrArg Cursor.offset next_eq
    rw [Cursor.offset_forward] at offset_eq
    exact empty (by omega)

/-- A parser that matches somewhere without taking text is one that may do so. -/
theorem mayTakeNothing_of_rests (plain : parser.IsPlain environment)
    (rests : (runWithin environment depth parser).Rests cursor) :
    MayTakeNothing environment parser := by
  induction depth generalizing parser cursor with
  | zero =>
      obtain ⟨session, value, after, ran⟩ := rests
      cases ran
  | succ depth induction =>
      have body {part : Parser} (isPart : Part environment part parser)
          (rests : (runWithin environment depth part).Rests cursor) :
          MayTakeNothing environment part :=
        induction (plain.of_part isPart) rests
      cases parser with
      | literal text nonempty => exact absurd rests (not_rests_literal nonempty)
      | pattern described label => exact .pattern (matchEnd?_of_rests rests) label
      | endOfInput => exact .endOfInput
      | primitive answer => exact absurd .refl (plain answer)
      | anyOf alternatives =>
          obtain ⟨session, value, after, ran⟩ := rests
          obtain ⟨action, tried, matched⟩ := Action.exists_matched_of_anyOfFrom ran
          obtain ⟨alternative, mem, rfl⟩ := List.mem_map.mp tried
          exact .anyOf mem (body (.alternative mem) matched)
      | optional inner => exact .optional inner
      | many inner => exact .many inner
      | sequence steps =>
          obtain ⟨session, value, after, ran⟩ := rests
          have forward : ∀ action ∈ steps.map (runWithin environment depth), action.GoesForward :=
            List.forall_mem_map.mpr fun step mem =>
              (plain.of_part (.step mem)).isForward.goesForward depth
          have rest := (Action.precedes_of_sequenceFrom forward ran).2 rfl
          exact .sequence fun step mem =>
            body (.step mem) (rest _ (List.mem_map_of_mem mem))
      | transform function inner =>
          obtain ⟨session, value, after, ran⟩ := rests
          simp only [runWithin, Action.transform] at ran
          split at ran <;> cases ran
          rename_i matched
          exact .transform function (body (.transform function inner) ⟨_, _, _, matched⟩)
      | traced name inner =>
          obtain ⟨session, value, after, ran⟩ := rests
          simp only [runWithin] at ran
          split at ran
          · simp only [Action.traced] at ran
            split at ran <;> cases ran
            rename_i matched
            exact .traced name (body (.traced name inner) ⟨_, _, _, matched⟩)
          · exact .traced name (body (.traced name inner) ⟨_, _, _, ran⟩)
      | observed tag inner =>
          obtain ⟨session, value, after, ran⟩ := rests
          exact .observed tag (body (.observed tag inner) ⟨_, _, _, ran⟩)
      | deferred cell tag references product =>
          obtain ⟨session, value, after, ran⟩ := rests
          cases product with
          | error fault =>
              simp only [runWithin, Action.deferred_error] at ran
              cases ran
          | ok inner =>
              simp only [runWithin, Action.deferred_ok] at ran
              exact .product cell tag references
                (body (.product cell tag references inner) ⟨_, _, _, ran⟩)
      | rule name =>
          obtain ⟨session, value, after, ran⟩ := rests
          cases found : environment.rules.lookup name with
          | none =>
              simp only [runWithin, found] at ran
              cases ran
          | some inner =>
              simp only [runWithin, found] at ran
              exact .rule found (body (.rule found) ⟨_, _, _, ran⟩)

/-! ## Runs that are cut off -/

/--
A run that is cut off runs a part that is cut off one level below, further on in the text or on the
left.
-/
theorem exists_cutOff_part (plain : parser.IsPlain environment)
    (buildable : parser.IsBuildable environment) (noReference : ∀ name, parser ≠ .rule name)
    (cut : (runWithin environment (depth + 1) parser).IsCutOff cursor) :
    ∃ part next, Part environment part parser ∧ cursor.Precedes next ∧
      (runWithin environment depth part).IsCutOff next ∧
        (next = cursor → LeftPart environment part parser) := by
  have here {part : Parser} (isLeft : LeftPart environment part parser)
      (cut : (runWithin environment depth part).IsCutOff cursor) :
      ∃ part next, Part environment part parser ∧ cursor.Precedes next ∧
        (runWithin environment depth part).IsCutOff next ∧
          (next = cursor → LeftPart environment part parser) :=
    ⟨part, cursor, isLeft.isPart, .refl cursor, cut, fun _ => isLeft⟩
  obtain ⟨session, ran⟩ := cut
  cases parser with
  | literal text =>
      simp only [runWithin, Action.literal] at ran
      split at ran <;> cases ran
  | pattern described label =>
      simp only [runWithin, Action.pattern] at ran
      split at ran <;> cases ran
  | endOfInput =>
      simp only [runWithin, Action.endOfInput] at ran
      split at ran <;> cases ran
  | primitive answer => exact absurd .refl (plain answer)
  | anyOf alternatives =>
      obtain ⟨action, tried, cut⟩ := Action.exists_isCutOff_of_anyOfFrom ran
      obtain ⟨alternative, mem, rfl⟩ := List.mem_map.mp tried
      exact here (.alternative mem) cut
  | optional inner =>
      simp only [runWithin, Action.optional] at ran
      split at ran <;> cases ran
      rename_i tried
      exact here (.optional inner) ⟨session, by rw [tried]⟩
  | many inner =>
      have forward := (plain.of_part (.many inner)).isForward.goesForward depth
      obtain ⟨next, ahead, cut⟩ :=
        Action.exists_isCutOff_of_manyFrom forward (Nat.lt_succ_self _) ran
      exact ⟨inner, next, .many inner, ahead, cut, fun _ => .many inner⟩
  | sequence steps =>
      have forward : ∀ step ∈ steps, (runWithin environment depth step).GoesForward :=
        fun step mem => (plain.of_part (.step mem)).isForward.goesForward depth
      obtain ⟨before, step, behind, next, rfl, ahead, cut, rest⟩ :=
        Action.exists_isCutOff_of_sequenceFrom forward ran
      have mem : step ∈ before ++ step :: behind := List.mem_append_right _ List.mem_cons_self
      refine ⟨step, next, .step mem, ahead, cut, fun same => .step (fun earlier mem => ?_) _ _⟩
      have plainEarlier := plain.of_part (.step (List.mem_append_left (step :: behind) mem))
      exact mayTakeNothing_of_rests plainEarlier (rest same earlier mem)
  | transform function inner =>
      simp only [runWithin, Action.transform] at ran
      split at ran <;> cases ran
      rename_i tried
      exact here (.transform function inner) ⟨session, by rw [tried]⟩
  | traced name inner =>
      simp only [runWithin] at ran
      split at ran
      · simp only [Action.traced] at ran
        split at ran <;> cases ran
        rename_i tried
        exact here (.traced name inner) ⟨_, by rw [tried]⟩
      · exact here (.traced name inner) ⟨session, ran⟩
  | observed tag inner => exact here (.observed tag inner) ⟨_, ran⟩
  | deferred cell tag references product =>
      cases product with
      | error fault => exact absurd .refl (buildable cell tag references fault)
      | ok inner =>
          simp only [runWithin, Action.deferred_ok] at ran
          exact here (.product cell tag references inner) ⟨_, ran⟩
  | rule name => exact absurd rfl (noReference name)

/-! ## Runs that end -/

/-- Runs of a parser with fewer than so many characters left end within one depth. -/
def EndsBelow (environment : Environment) (room : Nat) (parser : Parser) : Prop :=
  ∃ depth, ∀ cursor : Cursor, cursor.remaining < room →
    ¬ (runWithin environment depth parser).IsCutOff cursor

theorem not_isCutOff_deeper {deeper : Nat} (le : depth ≤ deeper)
    (ends : ¬ (runWithin environment depth parser).IsCutOff cursor) :
    ¬ (runWithin environment deeper parser).IsCutOff cursor := by
  rintro ⟨session, cut⟩
  have ended : (runWithin environment depth parser cursor session).1 ≠ .error .unbounded :=
    fun early => ends ⟨session, early⟩
  rw [runWithin_deeper le ended] at cut
  exact ended cut

theorem exists_parts (environment : Environment) (parser : Parser) :
    ∃ parts : List Parser, ∀ part, Part environment part parser → part ∈ parts := by
  cases parser with
  | literal | pattern | endOfInput | primitive => exact ⟨[], fun _ isPart => nomatch isPart⟩
  | anyOf alternatives => exact ⟨alternatives, fun _ (.alternative mem) => mem⟩
  | sequence steps => exact ⟨steps, fun _ (.step mem) => mem⟩
  | optional body => exact ⟨[body], fun _ (.optional _) => List.mem_cons_self⟩
  | many body => exact ⟨[body], fun _ (.many _) => List.mem_cons_self⟩
  | transform function body => exact ⟨[body], fun _ (.transform _ _) => List.mem_cons_self⟩
  | traced name body => exact ⟨[body], fun _ (.traced _ _) => List.mem_cons_self⟩
  | observed tag body => exact ⟨[body], fun _ (.observed _ _) => List.mem_cons_self⟩
  | deferred cell tag references product =>
      cases product with
      | error fault => exact ⟨[], fun _ isPart => nomatch isPart⟩
      | ok body => exact ⟨[body], fun _ (.product _ _ _ _) => List.mem_cons_self⟩
  | rule name =>
      refine ⟨(environment.rules.lookup name).toList, fun _ isPart => ?_⟩
      cases isPart with
      | rule found => rw [found]; exact List.mem_cons_self

theorem exists_depth_of_forall {property : Parser → Nat → Prop}
    (deeper : ∀ part depth deeper, depth ≤ deeper → property part depth → property part deeper)
    {parts : List Parser} (each : ∀ part ∈ parts, ∃ depth, property part depth) :
    ∃ depth, ∀ part ∈ parts, property part depth := by
  induction parts with
  | nil => exact ⟨0, fun _ mem => absurd mem List.not_mem_nil⟩
  | cons part parts induction =>
      obtain ⟨first, holds⟩ := each part List.mem_cons_self
      obtain ⟨second, others⟩ := induction fun other mem => each other (List.mem_cons_of_mem _ mem)
      refine ⟨max first second, List.forall_mem_cons.mpr ⟨?_, fun other mem => ?_⟩⟩
      · exact deeper part first _ (Nat.le_max_left _ _) holds
      · exact deeper other second _ (Nat.le_max_right _ _) (others other mem)

/-- A part ends within a depth: behind the start of the whole, and on the left at the start, too. -/
def EndsInside (environment : Environment) (room : Nat) (parser part : Parser) (depth : Nat) :
    Prop :=
  Part environment part parser → ∀ cursor : Cursor,
    (cursor.remaining < room ∨ LeftPart environment part parser ∧ cursor.remaining < room + 1) →
      ¬ (runWithin environment depth part).IsCutOff cursor

/--
A parser ends with some characters left if all parsers end with fewer, and the rules that it reaches
on its left end with as many.
-/
theorem endsBelow_of_leftReaches (plain : parser.IsPlain environment)
    (buildable : parser.IsBuildable environment)
    (shorter : ∀ {part : Parser}, part.IsPlain environment → part.IsBuildable environment →
      EndsBelow environment room part)
    (rules : ∀ name, LeftReaches environment name parser →
      EndsBelow environment (room + 1) (.rule name)) :
    EndsBelow environment (room + 1) parser := by
  -- The way down on the left goes through ever lighter parts, up to a reference.
  induction weight_eq : parser.weight using Nat.strong_induction_on generalizing parser with
  | _ weight induction =>
  subst weight_eq
  by_cases reference : ∃ name, parser = .rule name
  · obtain ⟨name, rfl⟩ := reference
    exact rules name .refl
  have noReference (name : String) : parser ≠ .rule name := fun same => reference ⟨name, same⟩
  have each (part : Parser) : ∃ depth, EndsInside environment room parser part depth := by
    by_cases isPart : Part environment part parser
    · have plainPart := plain.of_part isPart
      have buildablePart := buildable.of_part isPart
      by_cases isLeft : LeftPart environment part parser
      · obtain ⟨depth, ends⟩ := induction _ (isPart.weight_lt noReference) plainPart buildablePart
          (fun name reaches => rules name (reaches.tail isLeft)) rfl
        exact ⟨depth, fun _ cursor enough => ends cursor (by omega)⟩
      · obtain ⟨depth, ends⟩ := shorter plainPart buildablePart
        refine ⟨depth, fun _ cursor enough => ends cursor ?_⟩
        exact enough.resolve_right fun left => isLeft left.1
    · exact ⟨0, fun isPart' => absurd isPart' isPart⟩
  obtain ⟨parts, isComplete⟩ := exists_parts environment parser
  obtain ⟨depth, ends⟩ : ∃ depth, ∀ part ∈ parts, EndsInside environment room parser part depth :=
    exists_depth_of_forall (fun part depth deeper le ends isPart cursor enough =>
      not_isCutOff_deeper le (ends isPart cursor enough)) fun part _ => each part
  refine ⟨depth + 1, fun cursor enough cut => ?_⟩
  obtain ⟨part, next, isPart, ahead, cutPart, left⟩ :=
    exists_cutOff_part plain buildable noReference cut
  refine ends part (isComplete part isPart) isPart next ?_ cutPart
  by_cases same : next = cursor
  · exact .inr ⟨left same, same ▸ enough⟩
  · exact .inl (Nat.lt_of_lt_of_le (ahead.remaining_lt same) (Nat.le_of_lt_succ enough))

/-- On the left, rules call each other in no circle, so that there is an end to it. -/
theorem wellFounded_leftCalls (acyclic : ¬ IsLeftRecursive environment) :
    WellFounded fun callee caller => LeftCalls environment caller callee := by
  classical
  -- The number of rules that a rule calls, directly or through others, goes down.
  let called (name : String) : Finset String :=
    (environment.rules.map Prod.fst).toFinset.filter
      (Relation.TransGen (LeftCalls environment) name)
  have fewer {callee caller : String} (calls : LeftCalls environment caller callee) :
      (called callee).card < (called caller).card := by
    apply Finset.card_lt_card
    rw [Finset.ssubset_iff_of_subset]
    · refine ⟨callee, ?_, fun mem => acyclic ⟨callee, (Finset.mem_filter.mp mem).2⟩⟩
      have defined : callee ∈ environment.rules.map Prod.fst := by
        by_contra absent
        exact calls.1 (RuleSet.lookup_eq_none_iff.mpr absent)
      exact Finset.mem_filter.mpr ⟨List.mem_toFinset.mpr defined, .single calls⟩
    · intro name mem
      obtain ⟨defined, path⟩ := Finset.mem_filter.mp mem
      exact Finset.mem_filter.mpr ⟨defined, .head calls path⟩
  exact Subrelation.wf fewer (measure fun name => (called name).card).wf

theorem LeftReaches.occurs {name : String} (reaches : LeftReaches environment name parser) :
    Occurs environment (rule name) parser :=
  Relation.ReflTransGen.mono (fun _ _ isLeft => isLeft.isPart) _ _ reaches

theorem endsBelow_rule_of_body {name : String}
    (ends : ∀ body, environment.rules.lookup name = some body →
      EndsBelow environment room body) :
    EndsBelow environment room (.rule name) := by
  cases found : environment.rules.lookup name with
  | none =>
      refine ⟨1, fun cursor _ cut => ?_⟩
      obtain ⟨session, ran⟩ := cut
      simp only [runWithin, found] at ran
      cases ran
  | some body =>
      obtain ⟨depth, ends⟩ := ends body found
      refine ⟨depth + 1, fun cursor enough cut => ends cursor enough ?_⟩
      obtain ⟨session, ran⟩ := cut
      simp only [runWithin, found] at ran
      exact ⟨session, ran⟩

/-- Without left recursion, all runs of a parser with so many characters left end. -/
theorem endsBelow (acyclic : ¬ IsLeftRecursive environment) (room : Nat)
    (plain : parser.IsPlain environment) (buildable : parser.IsBuildable environment) :
    EndsBelow environment room parser := by
  induction room generalizing parser with
  | zero => exact ⟨0, fun _ none => absurd none (Nat.not_lt_zero _)⟩
  | succ room shorter =>
      have rules (name : String) (plain : (rule name).IsPlain environment)
          (buildable : (rule name).IsBuildable environment) :
          EndsBelow environment (room + 1) (.rule name) := by
        induction name using (wellFounded_leftCalls acyclic).induction with
        | _ name called =>
        refine endsBelow_rule_of_body fun body found => ?_
        have isPart : Part environment body (.rule name) := .rule found
        refine endsBelow_of_leftReaches (plain.of_part isPart) (buildable.of_part isPart) shorter
          fun callee reaches => ?_
        have occurs := reaches.occurs.tail isPart
        by_cases defined : environment.rules.lookup callee = none
        · exact endsBelow_rule_of_body fun body found => nomatch defined.symm.trans found
        · exact called callee ⟨defined, body, found, reaches⟩ (plain.of_occurs occurs)
            (buildable.of_occurs occurs)
      exact endsBelow_of_leftReaches plain buildable shorter fun name reaches =>
        rules name (plain.of_occurs reaches.occurs) (buildable.of_occurs reaches.occurs)

/-! ## Rule sets -/

/--
A rule set has finitely many rules.  If none of them calls itself on its left, directly or through
other rules, then each run of each parser over the set ends: at every depth from a certain one on it
is the same, whatever the text and the position.  It ends with an outcome, or because a reference is
run whose rule is not defined.
-/
theorem run_ends_without_left_recursion {set : RuleSet} {level : Level}
    (acyclic : ¬ IsLeftRecursive (set.environment level)) {parser : Parser}
    (plain : parser.IsPlain (set.environment level))
    (buildable : parser.IsBuildable (set.environment level)) (cursor : Cursor)
    (session : Session) :
    (∀ depth, sufficientDepth (set.environment level) parser cursor ≤ depth →
      runWithin (set.environment level) depth parser cursor session =
        parser.run (set.environment level) cursor session) ∧
    ((∃ outcome, (parser.run (set.environment level) cursor session).1 = .ok outcome) ∨
      ∃ name, Occurs (set.environment level) (rule name) parser ∧ set.contains name = false ∧
        (parser.run (set.environment level) cursor session).1 =
          .error (.undefinedRule (.reference name set.name))) := by
  obtain ⟨depth, ends⟩ := endsBelow acyclic (cursor.remaining + 1) plain buildable
  have ended : (runWithin (set.environment level) depth parser cursor session).1 ≠
      .error .unbounded := fun cut => ends cursor (Nat.lt_succ_self _) ⟨session, cut⟩
  rw [← run_eq_of_ended plain.isForward ended] at ended
  refine ⟨fun depth le => runWithin_deeper le ended, ?_⟩
  rcases ran : (parser.run (set.environment level) cursor session).1 with fault | outcome
  · right
    rcases raises_of_runWithin ran with _ | ⟨occurs, absent⟩ | occurs | ⟨occurs, -⟩
    · exact absurd ran ended
    · exact ⟨_, occurs, RuleSet.contains_eq_false_iff.mpr absent, rfl⟩
    · exact absurd occurs (buildable _ _ _ _)
    · exact absurd occurs (plain _)
  · exact .inl ⟨outcome, rfl⟩

/-- Lists of items in brackets, where items may be left out; the digits are not defined. -/
def bracketLists : RuleSet :=
  ⟨"lists", false,
    [("list",
      .sequence
        [.literal "[" (by decide), .many (.optional (.rule "item")), .literal "]" (by decide)]),
      ("item", .anyOf [.rule "list", .rule "digit"])]⟩

/-- In the lists in brackets only items call a rule on their left, which is the list. -/
theorem eq_of_leftCalls_bracketLists {level : Level} {caller callee : String}
    (calls : LeftCalls (bracketLists.environment level) caller callee) :
    caller = "item" ∧ callee = "list" := by
  obtain ⟨defined, body, found, reaches⟩ := calls
  have mem := RuleSet.mem_of_lookup found
  simp only [RuleSet.environment, bracketLists, List.mem_cons, Prod.mk.injEq, List.not_mem_nil,
    or_false] at mem
  rcases mem with ⟨rfl, rfl⟩ | ⟨rfl, rfl⟩ <;>
    obtain same | ⟨part, reaches, isLeft⟩ := Relation.ReflTransGen.cases_tail reaches
  · cases same
  · rcases eq_or_mayTakeNothing_of_leftPart isLeft with rfl | may
    · exact absurd reaches not_leftReaches_literal
    · cases may
  · cases same
  · cases isLeft with
    | alternative mem =>
        simp only [List.mem_cons, List.not_mem_nil, or_false] at mem
        rcases mem with rfl | rfl
        · exact ⟨rfl, (eq_of_leftReaches_rule reaches).symm⟩
        · rw [← eq_of_leftReaches_rule reaches] at defined
          exact absurd rfl defined

/-- The run of the lists in brackets on some text ends, though a digit is looked for. -/
theorem run_ends_on_bracketLists :
    let environment := bracketLists.environment .warning
    let start := Cursor.start ⟨['[', '1', ']'], 3, rfl⟩
    ¬ IsLeftRecursive environment ∧
      ((∃ outcome, ((rule "list").run environment start .fresh).1 = .ok outcome) ∨
        ∃ name, Occurs environment (rule name) (rule "list") ∧
          bracketLists.contains name = false ∧
          ((rule "list").run environment start .fresh).1 =
            .error (.undefinedRule (.reference name "lists"))) := by
  have acyclic : ¬ IsLeftRecursive (bracketLists.environment .warning) := by
    rintro ⟨name, circle⟩
    obtain ⟨_, first, -⟩ := Relation.TransGen.head'_iff.mp circle
    obtain ⟨_, -, last⟩ := Relation.TransGen.tail'_iff.mp circle
    have same := (eq_of_leftCalls_bracketLists first).1.symm.trans
      (eq_of_leftCalls_bracketLists last).2
    exact absurd same (by decide)
  have plain : (rule "list").IsPlain (bracketLists.environment .warning) :=
    isPlain_of_terms (by decide) (by decide)
  have buildable : (rule "list").IsBuildable (bracketLists.environment .warning) := by
    refine IsBuildable.of_nodes (fun name body found => ?_) fun _ _ _ _ occurs => ?_
    · have mem := RuleSet.mem_of_lookup found
      simp only [RuleSet.environment, bracketLists, List.mem_cons, Prod.mk.injEq,
        List.not_mem_nil, or_false] at mem
      rcases mem with ⟨-, rfl⟩ | ⟨-, rfl⟩ <;>
        simp [IsBuildable, occurs_anyOf, occurs_sequence, occurs_many, occurs_optional,
          occurs_literal, occurs_rule, Environment.empty]
    · simp [occurs_rule, Environment.empty] at occurs
  exact ⟨acyclic, (run_ends_without_left_recursion acyclic plain buildable _ .fresh).2⟩

end Parser
end Descent
