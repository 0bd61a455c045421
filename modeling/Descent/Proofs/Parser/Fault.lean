import Descent.Proofs.Parser.Mirror
import Descent.Proofs.Parser.Provenance

/-!
# What runs keep and where faults come from

A property of sessions that the steps of a parser keep is kept by its runs.  A fault that a run ends
with was raised by one of its parts: by a reference to a rule that is not defined, by a construction
that failed, or by a function of the position; no combinator makes one, but for the fault of a run
that was cut off.
-/

namespace Descent

/-- Runs keep a property of sessions and raise expected faults only. -/
def Action.Keeps (invariant : Session → Prop) (expected : Fault → Prop) (action : Action) : Prop :=
  ∀ cursor session, invariant session →
    invariant (action cursor session).2 ∧
      ∀ fault, (action cursor session).1 = .error fault → expected fault

namespace Action

variable {invariant : Session → Prop} {expected : Fault → Prop} {action : Action}

/-! ## Combinators -/

/-- The end of a run that gives an outcome. -/
theorem keeps_ok {session : Session} (kept : invariant session) (outcome : Outcome) :
    invariant session ∧
      ∀ fault, (Except.ok outcome : Except Fault Outcome) = .error fault → expected fault := by
  refine ⟨kept, fun fault raised => ?_⟩
  cases raised

theorem keeps_raise {fault : Fault} (holds : expected fault) :
    Keeps invariant expected (raise fault) := by
  intro cursor session kept
  refine ⟨kept, fun other raised => ?_⟩
  cases raised
  exact holds

theorem keeps_ofFunction {answer : Cursor → Except Fault Outcome}
    (holds : ∀ cursor fault, answer cursor = .error fault → expected fault) :
    Keeps invariant expected (ofFunction answer) :=
  fun cursor _ kept => ⟨kept, holds cursor⟩

theorem keeps_literal (text : String) : Keeps invariant expected (literal text) := by
  intro cursor session kept
  simp only [literal]
  split <;> exact keeps_ok kept _

theorem keeps_pattern (described : Pattern) (label : String) :
    Keeps invariant expected (pattern described label) := by
  intro cursor session kept
  simp only [pattern]
  split <;> exact keeps_ok kept _

theorem keeps_endOfInput : Keeps invariant expected endOfInput := by
  intro cursor session kept
  simp only [endOfInput]
  split <;> exact keeps_ok kept _

theorem Keeps.optional (keeps : Keeps invariant expected action) :
    Keeps invariant expected (optional action) := by
  intro cursor session kept
  have ends := keeps cursor session kept
  simp only [Action.optional]
  generalize action cursor session = ran at ends ⊢
  rcases ran with ⟨fault | ⟨value, next⟩ | failure, after⟩
  · exact ends
  · exact ends
  · exact keeps_ok ends.1 _

theorem Keeps.transform (keeps : Keeps invariant expected action) (function : Value → Value) :
    Keeps invariant expected (transform function action) := by
  intro cursor session kept
  have ends := keeps cursor session kept
  simp only [Action.transform]
  generalize action cursor session = ran at ends ⊢
  rcases ran with ⟨fault | ⟨value, next⟩ | failure, after⟩
  · exact ends
  · exact keeps_ok ends.1 _
  · exact ends

theorem Keeps.traced (keeps : Keeps invariant expected action)
    (notes : ∀ session entry, invariant session → invariant (session.note entry)) (name : String) :
    Keeps invariant expected (traced name action) := by
  intro cursor session kept
  have ends := keeps cursor _ (notes session (.trying name cursor.offset) kept)
  simp only [Action.traced]
  generalize action cursor (session.note (.trying name cursor.offset)) = ran at ends ⊢
  rcases ran with ⟨fault | outcome, after⟩
  · exact ends
  · exact keeps_ok (notes _ _ ends.1) _

/-- A body that is run in a session which depends on the session before. -/
theorem Keeps.inSession (keeps : Keeps invariant expected action)
    {change : Cursor → Session → Session}
    (changes : ∀ cursor session, invariant session → invariant (change cursor session)) :
    Keeps invariant expected fun cursor session => action cursor (change cursor session) :=
  fun cursor session kept => keeps cursor _ (changes cursor session kept)

theorem keeps_anyOfFrom {actions : List Action}
    (keeps : ∀ action ∈ actions, Keeps invariant expected action) (earlier : Option Failure) :
    Keeps invariant expected (anyOfFrom earlier actions) := by
  induction actions generalizing earlier with
  | nil => exact fun _ _ kept => keeps_ok kept _
  | cons action actions induction =>
      intro cursor session kept
      have ends := keeps action List.mem_cons_self cursor session kept
      simp only [anyOfFrom]
      generalize action cursor session = ran at ends ⊢
      rcases ran with ⟨fault | ⟨value, next⟩ | failure, after⟩
      · exact ends
      · exact ends
      · exact induction (fun other mem => keeps other (List.mem_cons_of_mem _ mem)) _ cursor after
          ends.1

theorem keeps_sequenceFrom {actions : List Action}
    (keeps : ∀ action ∈ actions, Keeps invariant expected action) (values : List Value) :
    Keeps invariant expected (sequenceFrom values actions) := by
  induction actions generalizing values with
  | nil => exact fun _ _ kept => keeps_ok kept _
  | cons action actions induction =>
      intro cursor session kept
      have ends := keeps action List.mem_cons_self cursor session kept
      simp only [sequenceFrom]
      generalize action cursor session = ran at ends ⊢
      rcases ran with ⟨fault | ⟨value, next⟩ | failure, after⟩
      · exact ends
      · exact induction (fun other mem => keeps other (List.mem_cons_of_mem _ mem)) _ next after
          ends.1
      · exact ends

theorem Keeps.manyFrom (keeps : Keeps invariant expected action) (cutOff : expected .unbounded)
    (bound : Nat) (values : List Value) :
    Keeps invariant expected (manyFrom action bound values) := by
  induction bound generalizing values with
  | zero => exact keeps_raise cutOff
  | succ bound induction =>
      intro cursor session kept
      have ends := keeps cursor session kept
      simp only [Action.manyFrom]
      generalize action cursor session = ran at ends ⊢
      rcases ran with ⟨fault | ⟨value, next⟩ | failure, after⟩
      · exact ends
      · dsimp only
        split
        · exact keeps_ok ends.1 _
        · exact induction _ next after ends.1
      · exact keeps_ok ends.1 _

theorem Keeps.many (keeps : Keeps invariant expected action) (cutOff : expected .unbounded) :
    Keeps invariant expected (many action) :=
  fun cursor => keeps.manyFrom cutOff (cursor.remaining + 1) [] cursor

end Action

namespace Parser

variable {environment : Environment} {invariant : Session → Prop} {expected : Fault → Prop}
  {part parser : Parser}

/-! ## Parsers -/

/-- The steps of a parser keep a property of sessions, and its parts raise expected faults. -/
structure Respects (environment : Environment) (invariant : Session → Prop)
    (expected : Fault → Prop) (parser : Parser) : Prop where
  cutOff : expected .unbounded
  primitive {answer : Cursor → Except Fault Outcome}
    (occurs : Occurs environment (primitive answer) parser) (cursor : Cursor) (fault : Fault)
    (raised : answer cursor = .error fault) : expected fault
  undefined {name : String} (occurs : Occurs environment (rule name) parser)
    (absent : environment.rules.lookup name = none) :
    expected (.undefinedRule (.reference name environment.grammar))
  unbuilt {cell : Nat} {tag : String} {references : List String} {fault : Fault}
    (occurs : Occurs environment (deferred cell tag references (.error fault)) parser) :
    expected fault
  note (tracing : environment.tracing = true) (session : Session) (entry : Entry)
    (kept : invariant session) : invariant (session.note entry)
  report (session : Session) (event : Event) (kept : invariant session) :
    invariant (session.report event)
  attempted {cell : Nat} {tag : String} {references : List String} {product : Except Fault Parser}
    (occurs : Occurs environment (deferred cell tag references product) parser)
    (session : Session) (kept : invariant session) :
    invariant (session.attempted cell tag references)
  opened {cell : Nat} {tag : String} {references : List String} {product : Except Fault Parser}
    (occurs : Occurs environment (deferred cell tag references product) parser)
    (session : Session) (kept : invariant session) :
    invariant (session.opened cell tag references)

theorem Respects.of_part (respects : Respects environment invariant expected parser)
    (isPart : Part environment part parser) : Respects environment invariant expected part where
  cutOff := respects.cutOff
  primitive occurs := respects.primitive (occurs.tail isPart)
  undefined occurs := respects.undefined (occurs.tail isPart)
  unbuilt occurs := respects.unbuilt (occurs.tail isPart)
  note := respects.note
  report := respects.report
  attempted occurs := respects.attempted (occurs.tail isPart)
  opened occurs := respects.opened (occurs.tail isPart)

/-- Runs keep what the steps keep, and raise what the parts raise. -/
theorem Respects.keeps (respects : Respects environment invariant expected parser) (depth : Nat) :
    Action.Keeps invariant expected (runWithin environment depth parser) := by
  induction depth generalizing parser with
  | zero => exact Action.keeps_raise respects.cutOff
  | succ depth induction =>
      have body {part : Parser} (isPart : Part environment part parser) :
          Action.Keeps invariant expected (runWithin environment depth part) :=
        induction (respects.of_part isPart)
      cases parser with
      | literal text => exact Action.keeps_literal text
      | pattern described label => exact Action.keeps_pattern described label
      | endOfInput => exact Action.keeps_endOfInput
      | primitive answer => exact Action.keeps_ofFunction (respects.primitive .refl)
      | anyOf alternatives =>
          have each : ∀ part ∈ alternatives, _ := fun _ mem => body (.alternative mem)
          exact Action.keeps_anyOfFrom (List.forall_mem_map.mpr each) none
      | optional inner => exact (body (.optional inner)).optional
      | many inner => exact (body (.many inner)).many respects.cutOff
      | sequence steps =>
          have each : ∀ part ∈ steps, _ := fun _ mem => body (.step mem)
          exact Action.keeps_sequenceFrom (List.forall_mem_map.mpr each) []
      | transform function inner => exact (body (.transform function inner)).transform function
      | traced name inner =>
          simp only [runWithin]
          split
          · rename_i tracing
            exact (body (.traced name inner)).traced (respects.note tracing) name
          · exact body (.traced name inner)
      | observed tag inner =>
          exact (body (.observed tag inner)).inSession fun _ session kept =>
            respects.report session _ kept
      | deferred cell tag references product =>
          cases product with
          | error fault =>
              simp only [runWithin, Action.deferred_error]
              intro cursor session kept
              refine ⟨respects.attempted .refl session kept, fun other raised => ?_⟩
              cases raised
              exact respects.unbuilt .refl
          | ok inner =>
              simp only [runWithin, Action.deferred_ok]
              exact (body (.product cell tag references inner)).inSession fun _ =>
                respects.opened .refl
      | rule name =>
          simp only [runWithin]
          split
          · rename_i absent
            exact Action.keeps_raise (respects.undefined .refl absent)
          · rename_i inner found
            exact body (.rule found)

/-- What all changes of the session keep is kept by a run. -/
theorem run_keeps (invariant : Session → Prop)
    (note : environment.tracing = true → ∀ session entry, invariant session →
      invariant (session.note entry))
    (report : ∀ session event, invariant session → invariant (session.report event))
    (attempted : ∀ {cell tag references product},
      Occurs environment (deferred cell tag references product) parser →
      ∀ session, invariant session → invariant (session.attempted cell tag references))
    (markBuilt : ∀ session cell, invariant session → invariant (session.markBuilt cell))
    (cursor : Cursor) {session : Session} (kept : invariant session) :
    invariant (parser.run environment cursor session).2 := by
  have respects : Respects environment invariant (fun _ => True) parser :=
    { cutOff := trivial
      primitive := fun _ _ _ _ => trivial
      undefined := fun _ _ => trivial
      unbuilt := fun _ => trivial
      note := note
      report := report
      attempted := attempted
      opened := fun occurs after kept => by
        rw [Session.opened]
        split
        · exact kept
        · exact markBuilt _ _ (attempted occurs after kept) }
  exact (respects.keeps _ cursor session kept).1

/-! ## Faults -/

/-- A fault that a part of a parser raises. -/
inductive Raises (environment : Environment) (parser : Parser) : Fault → Prop where
  /-- The run was cut off at its depth. -/
  | cutOff : Raises environment parser .unbounded
  /-- A reference was run whose rule is not defined. -/
  | undefined {name : String} (occurs : Occurs environment (rule name) parser)
      (absent : environment.rules.lookup name = none) :
      Raises environment parser (.undefinedRule (.reference name environment.grammar))
  /-- A construction failed on first use. -/
  | unbuilt {cell : Nat} {tag : String} {references : List String} {fault : Fault}
      (occurs : Occurs environment (deferred cell tag references (.error fault)) parser) :
      Raises environment parser fault
  /-- A function of the position raised it. -/
  | primitive {answer : Cursor → Except Fault Outcome} {cursor : Cursor} {fault : Fault}
      (occurs : Occurs environment (.primitive answer) parser)
      (raised : answer cursor = .error fault) : Raises environment parser fault

/-- The fault that a run ends with is raised by a part of its parser. -/
theorem raises_of_runWithin {depth : Nat} {cursor : Cursor} {session : Session} {fault : Fault}
    (ran : (runWithin environment depth parser cursor session).1 = .error fault) :
    Raises environment parser fault := by
  have respects : Respects environment (fun _ => True) (Raises environment parser) parser :=
    { cutOff := .cutOff
      primitive := fun occurs _ _ raised => .primitive occurs raised
      undefined := .undefined
      unbuilt := .unbuilt
      note := fun _ _ _ _ => trivial
      report := fun _ _ _ => trivial
      attempted := fun _ _ _ => trivial
      opened := fun _ _ _ => trivial }
  exact (respects.keeps depth cursor session trivial).2 fault ran

end Parser

end Descent
