import Mathlib.Data.List.Forall2
import Descent.Proofs.Parser.Provenance

/-!
# Runs that mirror each other

One action mirrors another when, started at the same position in sessions that are alike, it ends in
the same way and leaves sessions that are alike.  Some faults of the first action are excused: there
the second one may do anything.  The combinators keep this relation, whatever likeness of sessions
is asked for, and so do the runs of a parser at growing depths: a run that ends is not changed by
more depth, and its answer does not depend on the session.
-/

namespace Descent

/-! ## Sessions -/

namespace Session

/-- The session after the attempt to build a deferred parser. -/
def attempted (session : Session) (cell : Nat) (tag : String) (references : List String) :
    Session :=
  if session.built.contains cell then session
  else (session.report (.building tag)).mentionAll references

/-- The session in which the body of a deferred parser is run. -/
def opened (session : Session) (cell : Nat) (tag : String) (references : List String) : Session :=
  if session.built.contains cell then session
  else (session.attempted cell tag references).markBuilt cell

/--
A likeness of sessions that runs respect.  The cells of deferred parsers need not be the same on
both sides: cells of one number are taken for each other.
-/
structure IsLikeness (number : Nat → Nat) (alike : Session → Session → Prop) : Prop where
  report {session other : Session} (event : Event) (same : alike session other) :
    alike (session.report event) (other.report event)
  note {session other : Session} (entry : Entry) (same : alike session other) :
    alike (session.note entry) (other.note entry)
  attempted {session other : Session} {cell otherCell : Nat} (tag : String)
    (references : List String) (cells : number cell = number otherCell)
    (same : alike session other) :
    alike (session.attempted cell tag references) (other.attempted otherCell tag references)
  opened {session other : Session} {cell otherCell : Nat} (tag : String)
    (references : List String) (cells : number cell = number otherCell)
    (same : alike session other) :
    alike (session.opened cell tag references) (other.opened otherCell tag references)

/-- A likeness of sessions for which log entries do not matter. -/
structure IsLogBlind (number : Nat → Nat) (alike : Session → Session → Prop) : Prop
    extends IsLikeness number alike where
  idempotent (cell : Nat) : number (number cell) = number cell
  equivalence : Equivalence alike
  note_left {session other : Session} (entry : Entry) (same : alike session other) :
    alike (session.note entry) other

theorem IsLogBlind.note_right {number : Nat → Nat} {alike : Session → Session → Prop}
    (blind : IsLogBlind number alike) {session other : Session} (entry : Entry)
    (same : alike session other) : alike session (other.note entry) :=
  blind.equivalence.symm (blind.note_left entry (blind.equivalence.symm same))

/-- Equality is a likeness. -/
theorem isLikeness_eq : IsLikeness id Eq where
  report _ same := by rw [same]
  note _ same := by rw [same]
  attempted _ _ cells same := by
    rw [id_eq, id_eq] at cells
    rw [cells, same]
  opened _ _ cells same := by
    rw [id_eq, id_eq] at cells
    rw [cells, same]

/-- All sessions may be taken for alike, and all cells for the same. -/
theorem isLogBlind_true : IsLogBlind (fun _ => 0) fun _ _ => True where
  report _ _ := trivial
  note _ _ := trivial
  attempted _ _ _ _ := trivial
  opened _ _ _ _ := trivial
  idempotent _ := rfl
  equivalence := ⟨fun _ => trivial, fun _ => trivial, fun _ _ => trivial⟩
  note_left _ _ := trivial

end Session

/-! ## Ends of runs -/

/-- The run was cut off at the depth that it was given. -/
def Fault.IsUnbounded (fault : Fault) : Prop := fault = .unbounded

/-- The end of a run, and an end that mirrors it. -/
inductive Mirrored (alike : Session → Session → Prop) (excused : Fault → Prop)
    (region : Cursor → Prop) :
    Except Fault Outcome × Session → Except Fault Outcome × Session → Prop where
  | excused {fault : Fault} (holds : excused fault) (session : Session)
      (second : Except Fault Outcome × Session) :
      Mirrored alike excused region (.error fault, session) second
  | fault (fault : Fault) {session other : Session} (same : alike session other) :
      Mirrored alike excused region (.error fault, session) (.error fault, other)
  | failed (failure : Failure) {session other : Session} (same : alike session other) :
      Mirrored alike excused region (.ok (.failed failure), session) (.ok (.failed failure), other)
  | matched (value : Value) {next : Cursor} (inside : region next) {session other : Session}
      (same : alike session other) :
      Mirrored alike excused region (.ok (.matched value next), session)
        (.ok (.matched value next), other)

/-- Started in a region, the first action stays there and the second one mirrors it. -/
def Action.Mirrors (alike : Session → Session → Prop) (excused : Fault → Prop)
    (region : Cursor → Prop) (first second : Action) : Prop :=
  ∀ cursor, region cursor → ∀ session other, alike session other →
    Mirrored alike excused region (first cursor session) (second cursor other)

variable {alike : Session → Session → Prop} {excused : Fault → Prop} {region : Cursor → Prop}
  {number : Nat → Nat}

/-- An end without an excuse is mirrored by the same answer. -/
theorem Mirrored.answer_eq {ran mirror : Except Fault Outcome × Session}
    (mirrored : Mirrored alike excused region ran mirror)
    (ended : ∀ fault, excused fault → ran.1 ≠ .error fault) :
    mirror.1 = ran.1 ∧ alike ran.2 mirror.2 := by
  cases mirrored with
  | excused holds => exact absurd rfl (ended _ holds)
  | fault _ same | failed _ same | matched _ _ same => exact ⟨rfl, same⟩

theorem Mirrored.answer_eq_of_ended {ran mirror : Except Fault Outcome × Session}
    (mirrored : Mirrored alike Fault.IsUnbounded region ran mirror)
    (ended : ran.1 ≠ .error .unbounded) : mirror.1 = ran.1 ∧ alike ran.2 mirror.2 :=
  mirrored.answer_eq fun fault unbounded => by
    have fault_eq : fault = .unbounded := unbounded
    rwa [fault_eq]

namespace Action

/-! ## Actions that go forward -/

/-- A match of an action does not end in front of its start. -/
def GoesForward (action : Action) : Prop :=
  ∀ cursor session value next after,
    action cursor session = (.ok (.matched value next), after) → cursor.Precedes next

/-- Started in a region, an action that matches ends there. -/
def StaysIn (region : Cursor → Prop) (action : Action) : Prop :=
  ∀ cursor session value next after,
    action cursor session = (.ok (.matched value next), after) → region cursor → region next

/-- The answers of an action do not depend on the session. -/
def IsSteady (action : Action) : Prop :=
  ∀ cursor session other, (action cursor other).1 = (action cursor session).1

/-- All positions behind a position of a region belong to it. -/
def IsClosed (region : Cursor → Prop) : Prop :=
  ∀ first second : Cursor, first.Precedes second → region first → region second

theorem GoesForward.staysIn {action : Action} (forward : action.GoesForward)
    (closed : IsClosed region) : action.StaysIn region :=
  fun cursor session value next after ran =>
    closed cursor next (forward cursor session value next after ran)

theorem goesForward_of_credible {action : Action} {origin : Parser → Failure → Prop}
    {reader : Parser}
    (credible : ∀ cursor session,
      Watched.Credible origin reader cursor (action cursor session).1) :
    action.GoesForward := by
  intro cursor session value next after ran
  have answered := credible cursor session
  rwa [ran] at answered

theorem goesForward_literal (text : String) (nonempty : text ≠ "") :
    (literal text).GoesForward :=
  goesForward_of_credible (@Parser.credible_literal .empty text nonempty)

theorem goesForward_pattern (described : Pattern) (label : String) :
    (pattern described label).GoesForward :=
  goesForward_of_credible (@Parser.credible_pattern .empty described label)

theorem goesForward_endOfInput : endOfInput.GoesForward :=
  goesForward_of_credible (@Parser.credible_endOfInput .empty)

/-! ## Combinators -/

theorem mirrors_raise (fault : Fault) :
    Mirrors alike excused region (raise fault) (raise fault) :=
  fun _ _ _ _ same => .fault fault same

theorem mirrors_raise_of_excused {fault : Fault} (holds : excused fault) (second : Action) :
    Mirrors alike excused region (raise fault) second :=
  fun cursor _ session other _ => .excused holds session (second cursor other)

/-- An action that pays no heed to the session mirrors itself. -/
theorem mirrors_of_pure {action : Action} (stays : action.StaysIn region)
    (pure : ∃ answer, action = ofFunction answer) :
    Mirrors alike excused region action action := by
  obtain ⟨answer, rfl⟩ := pure
  intro cursor inside session other same
  simp only [ofFunction]
  rcases answered : answer cursor with fault | ⟨value, next⟩ | failure
  · exact .fault fault same
  · refine .matched value (stays cursor session value next session ?_ inside) same
    rw [ofFunction, answered]
  · exact .failed failure same

theorem pure_literal (text : String) : ∃ answer, literal text = ofFunction answer := by
  refine ⟨fun cursor => (literal text cursor .fresh).1, ?_⟩
  funext cursor session
  simp only [literal, ofFunction]
  split <;> rfl

theorem pure_pattern (described : Pattern) (label : String) :
    ∃ answer, pattern described label = ofFunction answer := by
  refine ⟨fun cursor => (pattern described label cursor .fresh).1, ?_⟩
  funext cursor session
  simp only [pattern, ofFunction]
  split <;> rfl

theorem pure_endOfInput : ∃ answer, endOfInput = ofFunction answer := by
  refine ⟨fun cursor => (endOfInput cursor .fresh).1, ?_⟩
  funext cursor session
  simp only [endOfInput, ofFunction]
  split <;> rfl

variable {first second : Action}

theorem Mirrors.optional (mirrors : Mirrors alike excused region first second) :
    Mirrors alike excused region (optional first) (optional second) := by
  intro cursor inside session other same
  have ends := mirrors cursor inside session other same
  simp only [Action.optional]
  generalize first cursor session = ran, second cursor other = mirror at ends ⊢
  cases ends with
  | excused holds session => exact .excused holds session _
  | fault fault same => exact .fault fault same
  | failed failure same => exact .matched .null inside same
  | matched value inside same => exact .matched value inside same

theorem Mirrors.transform (mirrors : Mirrors alike excused region first second)
    (function : Value → Value) :
    Mirrors alike excused region (transform function first) (transform function second) := by
  intro cursor inside session other same
  have ends := mirrors cursor inside session other same
  simp only [Action.transform]
  generalize first cursor session = ran, second cursor other = mirror at ends ⊢
  cases ends with
  | excused holds session => exact .excused holds session _
  | fault fault same => exact .fault fault same
  | failed failure same => exact .failed failure same
  | matched value inside same => exact .matched (function value) inside same

/-- Bodies that are run in sessions which depend on the start and the sessions before. -/
theorem Mirrors.inSession (mirrors : Mirrors alike excused region first second)
    {change otherChange : Cursor → Session → Session}
    (keeps : ∀ cursor session other, alike session other →
      alike (change cursor session) (otherChange cursor other)) :
    Mirrors alike excused region (fun cursor session => first cursor (change cursor session))
      fun cursor session => second cursor (otherChange cursor session) :=
  fun cursor inside session other same =>
    mirrors cursor inside _ _ (keeps cursor session other same)

theorem Mirrors.anyOfFrom {actions others : List Action}
    (mirrors : List.Forall₂ (Mirrors alike excused region) actions others)
    (earlier : Option Failure) :
    Mirrors alike excused region (anyOfFrom earlier actions) (anyOfFrom earlier others) := by
  induction mirrors generalizing earlier with
  | nil => exact fun cursor _ _ _ same => .failed _ same
  | @cons first second actions others head _ induction =>
      intro cursor inside session other same
      have ends := head cursor inside session other same
      simp only [Action.anyOfFrom]
      generalize first cursor session = ran, second cursor other = mirror at ends ⊢
      cases ends with
      | excused holds session => exact .excused holds session _
      | fault fault same => exact .fault fault same
      | failed failure same => exact induction _ cursor inside _ _ same
      | matched value inside same => exact .matched value inside same

theorem Mirrors.sequenceFrom {actions others : List Action}
    (mirrors : List.Forall₂ (Mirrors alike excused region) actions others)
    (values : List Value) :
    Mirrors alike excused region (sequenceFrom values actions) (sequenceFrom values others) := by
  induction mirrors generalizing values with
  | nil => exact fun cursor inside _ _ same => .matched _ inside same
  | @cons first second actions others head _ induction =>
      intro cursor inside session other same
      have ends := head cursor inside session other same
      simp only [Action.sequenceFrom]
      generalize first cursor session = ran, second cursor other = mirror at ends ⊢
      cases ends with
      | excused holds session => exact .excused holds session _
      | fault fault same => exact .fault fault same
      | failed failure same => exact .failed failure same
      | matched value inside same => exact induction _ _ inside _ _ same

theorem Mirrors.manyFrom (mirrors : Mirrors alike excused region first second) (bound : Nat)
    (values : List Value) :
    Mirrors alike excused region (manyFrom first bound values)
      (manyFrom second bound values) := by
  induction bound generalizing values with
  | zero => exact mirrors_raise .unbounded
  | succ bound induction =>
      intro cursor inside session other same
      have ends := mirrors cursor inside session other same
      simp only [Action.manyFrom]
      generalize first cursor session = ran, second cursor other = mirror at ends ⊢
      cases ends with
      | excused holds session => exact .excused holds session _
      | fault fault same => exact .fault fault same
      | failed failure same => exact .matched _ inside same
      | matched value insideNext same =>
          dsimp only
          split
          · exact .matched _ inside same
          · exact induction _ _ insideNext _ _ same

theorem Mirrors.many (mirrors : Mirrors alike excused region first second) :
    Mirrors alike excused region (many first) (many second) :=
  fun cursor => mirrors.manyFrom (cursor.remaining + 1) [] cursor

theorem deferred_error (cell : Nat) (tag : String) (references : List String) (fault : Fault) :
    deferred cell tag references (.error fault) =
      fun _ session => (.error fault, session.attempted cell tag references) := by
  funext cursor session
  simp only [deferred, Session.attempted]
  split <;> rfl

theorem deferred_ok (cell : Nat) (tag : String) (references : List String) (body : Action) :
    deferred cell tag references (.ok body) =
      fun cursor session => body cursor (session.opened cell tag references) := by
  funext cursor session
  simp only [deferred, Session.opened, Session.attempted]
  split <;> rfl

theorem mirrors_deferred_error (likeness : Session.IsLikeness number alike) {cell otherCell : Nat}
    (cells : number cell = number otherCell) (tag : String) (references : List String)
    (fault : Fault) :
    Mirrors alike excused region (deferred cell tag references (.error fault))
      (deferred otherCell tag references (.error fault)) := by
  rw [deferred_error, deferred_error]
  exact fun _ _ _ _ same => .fault fault (likeness.attempted tag references cells same)

theorem Mirrors.deferred_ok (likeness : Session.IsLikeness number alike) {cell otherCell : Nat}
    (cells : number cell = number otherCell) (tag : String) (references : List String)
    (mirrors : Mirrors alike excused region first second) :
    Mirrors alike excused region (deferred cell tag references (.ok first))
      (deferred otherCell tag references (.ok second)) := by
  rw [Action.deferred_ok, Action.deferred_ok]
  exact mirrors.inSession fun _ _ _ same => likeness.opened tag references cells same

theorem Mirrors.traced (likeness : Session.IsLikeness number alike) (name : String)
    (mirrors : Mirrors alike excused region first second) :
    Mirrors alike excused region (traced name first) (traced name second) := by
  intro cursor inside session other same
  have ends := mirrors cursor inside _ _ (likeness.note (.trying name cursor.offset) same)
  simp only [Action.traced]
  generalize first cursor (session.note _) = ran, second cursor (other.note _) = mirror at ends ⊢
  cases ends with
  | excused holds session => exact .excused holds session _
  | fault fault same => exact .fault fault same
  | failed failure same => exact .failed failure (likeness.note _ same)
  | matched value inside same => exact .matched value inside (likeness.note _ same)

/-- A trace on the left only. -/
theorem Mirrors.traced_left (blind : Session.IsLogBlind number alike) (name : String)
    (mirrors : Mirrors alike excused region first second) :
    Mirrors alike excused region (Action.traced name first) second := by
  intro cursor inside session other same
  have ends := mirrors cursor inside _ _ (blind.note_left (.trying name cursor.offset) same)
  simp only [Action.traced]
  generalize first cursor (session.note _) = ran, second cursor other = mirror at ends ⊢
  cases ends with
  | excused holds session => exact .excused holds session mirror
  | fault fault same => exact .fault fault same
  | failed failure same => exact .failed failure (blind.note_left _ same)
  | matched value inside same => exact .matched value inside (blind.note_left _ same)

/-- A trace on the right only. -/
theorem Mirrors.traced_right (blind : Session.IsLogBlind number alike) (name : String)
    (mirrors : Mirrors alike excused region first second) :
    Mirrors alike excused region first (Action.traced name second) := by
  intro cursor inside session other same
  have ends := mirrors cursor inside _ _ (blind.note_right (.trying name cursor.offset) same)
  simp only [Action.traced]
  generalize first cursor session = ran, second cursor (other.note _) = mirror at ends ⊢
  cases ends with
  | excused holds session => exact .excused holds session _
  | fault fault same => exact .fault fault same
  | failed failure same => exact .failed failure (blind.note_right _ same)
  | matched value inside same => exact .matched value inside (blind.note_right _ same)

end Action

/-! ## Nodes -/

namespace Parser

/--
Two parsers are the same on top, and their parts are related.  References and traces are left out,
for what they do depends on the grammar.
-/
inductive SameNode (number : Nat → Nat) (related : Parser → Parser → Prop) :
    Parser → Parser → Prop where
  | literal (text : String) (nonempty : text ≠ "") :
      SameNode number related (literal text nonempty) (literal text nonempty)
  | pattern (described : Pattern) (label : String) :
      SameNode number related (pattern described label) (pattern described label)
  | endOfInput : SameNode number related endOfInput endOfInput
  | primitive (answer : Cursor → Except Fault Outcome) :
      SameNode number related (primitive answer) (primitive answer)
  | anyOf {alternatives others : List Parser} (each : List.Forall₂ related alternatives others) :
      SameNode number related (anyOf alternatives) (anyOf others)
  | optional {body other : Parser} (same : related body other) :
      SameNode number related (optional body) (optional other)
  | many {body other : Parser} (same : related body other) :
      SameNode number related (many body) (many other)
  | sequence {steps others : List Parser} (each : List.Forall₂ related steps others) :
      SameNode number related (sequence steps) (sequence others)
  | transform (function : Value → Value) {body other : Parser} (same : related body other) :
      SameNode number related (transform function body) (transform function other)
  | observed (tag : String) {body other : Parser} (same : related body other) :
      SameNode number related (observed tag body) (observed tag other)
  | unbuilt {cell otherCell : Nat} (cells : number cell = number otherCell) (tag : String)
      (references : List String) (fault : Fault) :
      SameNode number related (deferred cell tag references (.error fault))
        (deferred otherCell tag references (.error fault))
  | product {cell otherCell : Nat} (cells : number cell = number otherCell) (tag : String)
      (references : List String) {body other : Parser} (same : related body other) :
      SameNode number related (deferred cell tag references (.ok body))
        (deferred otherCell tag references (.ok other))

variable {environment : Environment} {part parser : Parser} {depth deeper : Nat} {cursor : Cursor}

theorem SameNode.swap {related : Parser → Parser → Prop} {other : Parser}
    (same : SameNode number related parser other) :
    SameNode number (fun part other => related other part) other parser := by
  cases same with
  | literal text nonempty => exact .literal text nonempty
  | pattern described label => exact .pattern described label
  | endOfInput => exact .endOfInput
  | primitive answer => exact .primitive answer
  | anyOf each => exact .anyOf each.flip
  | optional same => exact .optional same
  | many same => exact .many same
  | sequence each => exact .sequence each.flip
  | transform function same => exact .transform function same
  | observed tag same => exact .observed tag same
  | unbuilt cells tag references fault => exact .unbuilt cells.symm tag references fault
  | product cells tag references same => exact .product cells.symm tag references same

/-- A translation of parsers that keeps all nodes but references, traces and deferred parsers. -/
structure IsTranslation (translate : Parser → Parser) : Prop where
  literal (text : String) (nonempty : text ≠ "") :
    translate (literal text nonempty) = .literal text nonempty
  pattern (described : Pattern) (label : String) :
    translate (pattern described label) = .pattern described label
  endOfInput : translate endOfInput = .endOfInput
  primitive (answer : Cursor → Except Fault Outcome) :
    translate (primitive answer) = .primitive answer
  anyOf (alternatives : List Parser) :
    translate (anyOf alternatives) = .anyOf (alternatives.map translate)
  optional (body : Parser) : translate (optional body) = .optional (translate body)
  many (body : Parser) : translate (many body) = .many (translate body)
  sequence (steps : List Parser) :
    translate (sequence steps) = .sequence (steps.map translate)
  transform (function : Value → Value) (body : Parser) :
    translate (transform function body) = .transform function (translate body)
  observed (tag : String) (body : Parser) :
    translate (observed tag body) = .observed tag (translate body)

theorem isTranslation_id : IsTranslation id where
  literal _ _ := rfl
  pattern _ _ := rfl
  endOfInput := rfl
  primitive _ := rfl
  anyOf alternatives := by rw [List.map_id]; rfl
  optional _ := rfl
  many _ := rfl
  sequence steps := by rw [List.map_id]; rfl
  transform _ _ := rfl
  observed _ _ := rfl

/-- A parser and its translation are the same on top. -/
theorem IsTranslation.sameNode {translate : Parser → Parser} (translation : IsTranslation translate)
    (environment : Environment) {related : Parser → Parser → Prop}
    (noReference : ∀ name, parser ≠ .rule name)
    (noTrace : ∀ name body, parser ≠ .traced name body)
    (noDeferral : ∀ cell tag references product, parser ≠ .deferred cell tag references product)
    (each : ∀ {part : Parser}, Part environment part parser → related part (translate part)) :
    SameNode number related parser (translate parser) := by
  cases parser with
  | literal text nonempty =>
      rw [translation.literal]
      exact .literal text nonempty
  | pattern described label =>
      rw [translation.pattern]
      exact .pattern described label
  | endOfInput =>
      rw [translation.endOfInput]
      exact .endOfInput
  | primitive answer =>
      rw [translation.primitive]
      exact .primitive answer
  | anyOf alternatives =>
      rw [translation.anyOf]
      refine .anyOf (List.forall₂_map_right_iff.mpr (List.forall₂_same.mpr fun _ mem => ?_))
      exact each (.alternative mem)
  | optional body =>
      rw [translation.optional]
      exact .optional (each (.optional body))
  | many body =>
      rw [translation.many]
      exact .many (each (.many body))
  | sequence steps =>
      rw [translation.sequence]
      refine .sequence (List.forall₂_map_right_iff.mpr (List.forall₂_same.mpr fun _ mem => ?_))
      exact each (.step mem)
  | transform function body =>
      rw [translation.transform]
      exact .transform function (each (.transform function body))
  | observed tag body =>
      rw [translation.observed]
      exact .observed tag (each (.observed tag body))
  | traced name body => exact absurd rfl (noTrace name body)
  | deferred cell tag references product =>
      exact absurd rfl (noDeferral cell tag references product)
  | rule name => exact absurd rfl (noReference name)

theorem sameNode_self {related : Parser → Parser → Prop}
    (noReference : ∀ name, parser ≠ .rule name) (noTrace : ∀ name body, parser ≠ .traced name body)
    (each : ∀ {part : Parser}, Part environment part parser → related part part) :
    SameNode number related parser parser := by
  cases parser with
  | deferred cell tag references product =>
      cases product with
      | error fault => exact .unbuilt rfl tag references fault
      | ok body => exact .product rfl tag references (each (.product cell tag references body))
  | _ => exact isTranslation_id.sameNode environment noReference noTrace (by simp) each

/-- All functions of the position in a parser end in a region if they are started there. -/
def StaysIn (environment : Environment) (region : Cursor → Prop) (parser : Parser) : Prop :=
  ∀ answer, Occurs environment (primitive answer) parser →
    (Action.ofFunction answer).StaysIn region

theorem StaysIn.of_part (stays : parser.StaysIn environment region)
    (isPart : Part environment part parser) : part.StaysIn environment region :=
  fun answer occurs => stays answer (occurs.tail isPart)

theorem staysIn_everywhere (environment : Environment) (parser : Parser) :
    parser.StaysIn environment fun _ => True :=
  fun _ _ _ _ _ _ _ _ _ => trivial

theorem isClosed_everywhere : Action.IsClosed fun _ => True := fun _ _ _ _ => trivial

/-- Runs mirror each other if they do so one level below. -/
theorem SameNode.mirrors {otherEnvironment : Environment} {other : Parser}
    (likeness : Session.IsLikeness number alike) (closed : Action.IsClosed region)
    (stays : parser.StaysIn environment region)
    (same : SameNode number
      (fun part other => Action.Mirrors alike excused region
        (runWithin environment depth part) (runWithin otherEnvironment deeper other))
      parser other) :
    Action.Mirrors alike excused region (runWithin environment (depth + 1) parser)
      (runWithin otherEnvironment (deeper + 1) other) := by
  cases same with
  | literal text nonempty =>
      have forward := Action.goesForward_literal text nonempty
      exact Action.mirrors_of_pure (forward.staysIn closed) (Action.pure_literal text)
  | pattern described label =>
      have forward := Action.goesForward_pattern described label
      exact Action.mirrors_of_pure (forward.staysIn closed) (Action.pure_pattern described label)
  | endOfInput =>
      have forward := Action.goesForward_endOfInput
      exact Action.mirrors_of_pure (forward.staysIn closed) Action.pure_endOfInput
  | primitive answer => exact Action.mirrors_of_pure (stays answer .refl) ⟨answer, rfl⟩
  | anyOf each =>
      refine Action.Mirrors.anyOfFrom ?_ none
      rwa [List.forall₂_map_left_iff, List.forall₂_map_right_iff]
  | optional same => exact same.optional
  | many same => exact same.many
  | sequence each =>
      refine Action.Mirrors.sequenceFrom ?_ []
      rwa [List.forall₂_map_left_iff, List.forall₂_map_right_iff]
  | transform function same => exact same.transform function
  | observed tag same => exact same.inSession fun _ _ _ same => likeness.report _ same
  | unbuilt cells tag references fault =>
      exact Action.mirrors_deferred_error likeness cells tag references fault
  | product cells tag references same => exact same.deferred_ok likeness cells tag references

/-! ## More depth -/

/-- More depth changes no run that ends, and sessions that are alike are left alike. -/
theorem mirrors_deeper (likeness : Session.IsLikeness number alike)
    (closed : Action.IsClosed region) (stays : parser.StaysIn environment region)
    (le : depth ≤ deeper) :
    Action.Mirrors alike Fault.IsUnbounded region (runWithin environment depth parser)
      (runWithin environment deeper parser) := by
  induction depth generalizing deeper parser with
  | zero =>
      have unbounded : Fault.IsUnbounded .unbounded := rfl
      exact Action.mirrors_raise_of_excused unbounded _
  | succ depth induction =>
      obtain ⟨deeper, rfl⟩ := Nat.exists_eq_add_of_le' (Nat.le_trans (Nat.le_add_left 1 depth) le)
      have body {part : Parser} (isPart : Part environment part parser) :=
        induction (stays.of_part isPart) (Nat.le_of_add_le_add_right le)
      cases parser with
      | traced name inner =>
          simp only [runWithin]
          split
          · exact (body (.traced name inner)).traced likeness name
          · exact body (.traced name inner)
      | rule name =>
          simp only [runWithin]
          split
          · exact Action.mirrors_raise _
          · rename_i found
            exact body (.rule found)
      | _ => exact SameNode.mirrors likeness closed stays (sameNode_self (by simp) (by simp) body)

/-- More depth changes no run that ends, wherever it is started. -/
theorem mirrored_deeper (likeness : Session.IsLikeness number alike) (le : depth ≤ deeper)
    (environment : Environment) (parser : Parser) (cursor : Cursor) (session other : Session)
    (same : alike session other) :
    Mirrored alike Fault.IsUnbounded (fun _ => True)
      (runWithin environment depth parser cursor session)
      (runWithin environment deeper parser cursor other) := by
  exact mirrors_deeper likeness isClosed_everywhere (staysIn_everywhere environment parser) le
    cursor trivial session other same

/-- A run that ends is not changed by more depth. -/
theorem runWithin_deeper {parser : Parser} {session : Session} (le : depth ≤ deeper)
    (ended : (runWithin environment depth parser cursor session).1 ≠ .error .unbounded) :
    runWithin environment deeper parser cursor session =
      runWithin environment depth parser cursor session := by
  have mirrored := mirrored_deeper Session.isLikeness_eq le environment parser cursor
    session session rfl
  obtain ⟨answer_eq, session_eq⟩ := mirrored.answer_eq_of_ended ended
  exact Prod.ext answer_eq session_eq.symm

/-- The answer of a run that ends does not depend on the session. -/
theorem answer_eq_of_session {parser : Parser} {session : Session}
    (ended : (runWithin environment depth parser cursor session).1 ≠ .error .unbounded)
    (other : Session) :
    (runWithin environment depth parser cursor other).1 =
      (runWithin environment depth parser cursor session).1 := by
  have mirrored := mirrored_deeper Session.isLogBlind_true.toIsLikeness (Nat.le_refl depth)
    environment parser cursor session other trivial
  exact (mirrored.answer_eq_of_ended ended).1

theorem isSteady_runWithin (environment : Environment) (depth : Nat) (parser : Parser) :
    (runWithin environment depth parser).IsSteady := by
  intro cursor session other
  by_contra different
  by_cases cut : (runWithin environment depth parser cursor session).1 = .error .unbounded
  · have ended : (runWithin environment depth parser cursor other).1 ≠ .error .unbounded :=
      fun otherCut => different (otherCut.trans cut.symm)
    exact different (answer_eq_of_session ended session).symm
  · exact different (answer_eq_of_session cut other)

/-! ## Parsers that go forward -/

/-- No function of the position in a parser goes back. -/
def IsForward (environment : Environment) (parser : Parser) : Prop :=
  ∀ answer, Occurs environment (primitive answer) parser →
    (Action.ofFunction answer).GoesForward

theorem IsPlain.isForward (plain : parser.IsPlain environment) : parser.IsForward environment :=
  fun answer occurs => absurd occurs (plain answer)

theorem IsForward.of_part (forward : parser.IsForward environment)
    (isPart : Part environment part parser) : part.IsForward environment :=
  fun answer occurs => forward answer (occurs.tail isPart)

/-- A match of a parser does not end in front of its start if its primitives do not go back. -/
theorem IsForward.goesForward (forward : parser.IsForward environment) (depth : Nat) :
    (runWithin environment depth parser).GoesForward := by
  intro cursor session value next after ran
  have closed : Action.IsClosed cursor.Precedes := fun _ _ ahead behind => behind.trans ahead
  have mirrored := mirrors_deeper Session.isLogBlind_true.toIsLikeness closed
    (fun answer occurs => (forward answer occurs).staysIn closed) (Nat.le_refl depth) cursor
    (.refl cursor) session session trivial
  rw [ran] at mirrored
  cases mirrored with
  | matched _ inside => exact inside

end Parser

end Descent
