import Descent.Proofs.Parser.Mention
import Descent.Proofs.Parser.PartRun

/-!
# Arrivals at deferred parsers

A run arrives at a deferred parser whenever it is about to run it.  The construction is tried at an
arrival if the cell is not built, that is, if no try before it ended with a parser.  A try that ends
with a fault is the last arrival of its run, which ends with that fault.  The constructions that a
session reports are those that were tried, in order.
-/

namespace Descent

/-- A deferred parser to which a run came. -/
structure Arrival where
  cell : Nat
  tag : String
  /-- What the construction yields. -/
  product : Except Fault Parser
  /-- The construction is tried, for the cell is not built. -/
  tries : Bool

namespace Session

/-- The arrival at a deferred parser during a session. -/
def arrival (session : Session) (cell : Nat) (tag : String) (product : Except Fault Parser) :
    Arrival :=
  ⟨cell, tag, product, !session.built.contains cell⟩

variable (session : Session) (cell : Nat) (tag : String) (references : List String)

theorem built_attempted : (session.attempted cell tag references).built = session.built := by
  simp only [attempted]
  split
  · rfl
  · rw [mentionAll_eq]
    rfl

theorem events_attempted :
    (session.attempted cell tag references).events =
      if session.built.contains cell then session.events
      else .building tag :: session.events := by
  simp only [attempted]
  split
  · rfl
  · rw [mentionAll_eq]
    rfl

theorem built_opened :
    (session.opened cell tag references).built =
      if session.built.contains cell then session.built else cell :: session.built := by
  simp only [opened]
  split
  · rfl
  · exact congrArg (cell :: ·) (session.built_attempted cell tag references)

theorem events_opened :
    (session.opened cell tag references).events =
      (session.attempted cell tag references).events := by
  simp only [opened, attempted]
  split <;> rfl

end Session

namespace Arrival

/-- The construction is tried, and ends with a parser. -/
def builds (arrival : Arrival) : Bool := arrival.tries && arrival.product.isOk

/-- The construction is tried, and ends with a fault. -/
def raises (arrival : Arrival) : Bool := arrival.tries && !arrival.product.isOk

/-- The cells that are built after an arrival. -/
def mark (built : List Nat) (arrival : Arrival) : List Nat :=
  if arrival.builds then arrival.cell :: built else built

/-- At each of some arrivals the construction is tried if the cell is not built until then. -/
def AreOrderly : List Nat → List Arrival → Prop
  | _, [] => True
  | built, arrival :: arrivals =>
      arrival.tries = !built.contains arrival.cell ∧ AreOrderly (mark built arrival) arrivals

/-- The arrivals of a run that ends in a certain way. -/
inductive EndsWith : Except Fault Outcome → List Arrival → Prop where
  /-- No construction ended with a fault. -/
  | calm (answer : Except Fault Outcome) {arrivals : List Arrival}
      (none : ∀ arrival ∈ arrivals, arrival.raises = false) : EndsWith answer arrivals
  /-- The last construction ended with the fault of the run. -/
  | raised {fault : Fault} {before : List Arrival}
      (none : ∀ arrival ∈ before, arrival.raises = false) {last : Arrival}
      (tries : last.tries = true) (product_eq : last.product = .error fault) :
      EndsWith (.error fault) (before ++ [last])

variable {built : List Nat} {arrival : Arrival} {first second arrivals : List Arrival}

theorem builds_eq_false {fault : Fault} (product_eq : arrival.product = .error fault) :
    arrival.builds = false := by
  rw [builds, product_eq]
  exact Bool.and_false _

theorem raises_eq_false {body : Parser} (product_eq : arrival.product = .ok body) :
    arrival.raises = false := by
  rw [raises, product_eq]
  exact Bool.and_false _

theorem areOrderly_append :
    AreOrderly built (first ++ second) ↔
      AreOrderly built first ∧ AreOrderly (first.foldl mark built) second := by
  induction first generalizing built with
  | nil => exact (true_and _).to_iff.symm
  | cons arrival first induction =>
      rw [List.cons_append, AreOrderly, AreOrderly, List.foldl_cons, induction, and_assoc]

theorem mem_mark {cell : Nat} :
    cell ∈ mark built arrival ↔ cell ∈ built ∨ (arrival.cell = cell ∧ arrival.builds = true) := by
  rw [mark]
  cases arrival.builds with
  | true => rw [if_pos rfl, List.mem_cons, or_comm, eq_comm, and_iff_left rfl]
  | false => simp

/-- A cell is built if it was at first, or if a construction ended with its parser. -/
theorem mem_foldl_mark {cell : Nat} :
    cell ∈ arrivals.foldl mark built ↔
      cell ∈ built ∨ ∃ arrival ∈ arrivals, arrival.cell = cell ∧ arrival.builds = true := by
  induction arrivals generalizing built with
  | nil => simp
  | cons arrival arrivals induction =>
      rw [List.foldl_cons, induction, mem_mark, List.exists_mem_cons_iff, or_assoc]

/-- A construction is tried unless the cell was built before. -/
theorem AreOrderly.tries_iff {later : List Arrival}
    (orderly : AreOrderly built (arrivals ++ arrival :: later)) :
    arrival.tries = true ↔ arrival.cell ∉ arrivals.foldl mark built := by
  obtain ⟨-, tries_eq, -⟩ := areOrderly_append.mp orderly
  rw [tries_eq, Bool.not_eq_true', List.contains_eq_mem, decide_eq_false_iff_not]

theorem EndsWith.none {outcome : Outcome} (ends : EndsWith (.ok outcome) arrivals) :
    ∀ arrival ∈ arrivals, arrival.raises = false := by
  cases ends with
  | calm _ none => exact none

theorem EndsWith.append {answer : Except Fault Outcome} (ends : EndsWith answer second)
    (calm : ∀ arrival ∈ first, arrival.raises = false) : EndsWith answer (first ++ second) := by
  cases ends with
  | calm answer none => exact .calm answer (List.forall_mem_append.mpr ⟨calm, none⟩)
  | raised none tries product_eq =>
      rw [← List.append_assoc]
      exact .raised (List.forall_mem_append.mpr ⟨calm, none⟩) tries product_eq

/-- A construction that ends with a fault is the last one, and its fault that of the run. -/
theorem EndsWith.of_raises {answer : Except Fault Outcome} {later : List Arrival} {fault : Fault}
    (ends : EndsWith answer (arrivals ++ arrival :: later)) (tries : arrival.tries = true)
    (product_eq : arrival.product = .error fault) : later = [] ∧ answer = .error fault := by
  have raises : arrival.raises = true := by
    rw [Arrival.raises, tries, product_eq]
    rfl
  generalize all_eq : arrivals ++ arrival :: later = all at ends
  cases ends with
  | calm _ none =>
      have calm := none arrival (all_eq ▸ List.mem_append_right _ List.mem_cons_self)
      rw [raises] at calm
      contradiction
  | @raised _ before none last _ last_eq =>
      -- All arrivals but the last one are calm, so that this one is the last.
      rcases List.eq_nil_or_concat later with rfl | ⟨others, final, rfl⟩
      · obtain ⟨-, rfl⟩ := List.append_singleton_inj.mp all_eq
        exact ⟨rfl, congrArg _ (Except.error.inj (last_eq.symm.trans product_eq))⟩
      · rw [List.concat_eq_append, ← List.cons_append, ← List.append_assoc] at all_eq
        obtain ⟨rfl, -⟩ := List.append_singleton_inj.mp all_eq
        have calm := none arrival (List.mem_append_right _ List.mem_cons_self)
        rw [raises] at calm
        contradiction

/-! ## Sessions -/

/-- The tags of the constructions that were tried, the latest first. -/
def constructions (events : List Event) : List String :=
  events.filterMap fun event =>
    match event with
    | .building tag => some tag
    | .reached _ _ => none

/-- Arrivals lead from one session to another. -/
structure Leads (session : Session) (arrivals : List Arrival) (after : Session) : Prop where
  orderly : AreOrderly session.built arrivals
  built_eq : after.built = arrivals.foldl mark session.built
  constructions_eq : constructions after.events =
    ((arrivals.filter (·.tries)).map (·.tag)).reverse ++ constructions session.events

/-- A run ended with these arrivals. -/
structure Arrived (session : Session) (arrivals : List Arrival)
    (ran : Except Fault Outcome × Session) : Prop where
  leads : Leads session arrivals ran.2
  ends : EndsWith ran.1 arrivals

variable {session after : Session} {outcome : Outcome} {ran : Except Fault Outcome × Session}

theorem leads_refl (session : Session) : Leads session [] session := ⟨trivial, rfl, rfl⟩

theorem Leads.trans {last : Session} (leads : Leads session first after)
    (further : Leads after second last) : Leads session (first ++ second) last where
  orderly := areOrderly_append.mpr ⟨leads.orderly, leads.built_eq ▸ further.orderly⟩
  built_eq := by rw [further.built_eq, leads.built_eq, List.foldl_append]
  constructions_eq := by
    rw [further.constructions_eq, leads.constructions_eq, List.filter_append, List.map_append,
      List.reverse_append, List.append_assoc]

/-- The arrivals of runs compose. -/
theorem composes_arrived : Composes Arrived where
  answer session answer := ⟨leads_refl session, .calm answer (List.forall_mem_nil _)⟩
  ok returned other := ⟨returned.leads, .calm (.ok other) returned.ends.none⟩
  append returned further :=
    ⟨returned.leads.trans further.leads, further.ends.append returned.ends.none⟩

/-- A run of which only the session was changed, before it or after it. -/
theorem Arrived.of_eq {other otherAfter : Session} {answer : Except Fault Outcome}
    (arrived : Arrived other arrivals (answer, otherAfter)) (built_eq : other.built = session.built)
    (constructions_eq : constructions other.events = constructions session.events)
    (built_after_eq : after.built = otherAfter.built)
    (events_after_eq : after.events = otherAfter.events) :
    Arrived session arrivals (answer, after) where
  leads := {
    orderly := built_eq ▸ arrived.leads.orderly
    built_eq := by rw [built_after_eq, arrived.leads.built_eq, built_eq]
    constructions_eq := by rw [events_after_eq, arrived.leads.constructions_eq, constructions_eq] }
  ends := arrived.ends

/-- A trace is no arrival. -/
theorem Arrived.traced {body : Action} {name : String} {cursor : Cursor}
    (arrived : Arrived (session.note (.trying name cursor.offset)) arrivals
      (body cursor (session.note (.trying name cursor.offset)))) :
    Arrived session arrivals (Action.traced name body cursor session) := by
  simp only [Action.traced]
  generalize body cursor (session.note _) = ran at arrived ⊢
  rcases ran with ⟨fault | outcome, after⟩
  · exact arrived.of_eq rfl rfl rfl rfl
  · exact arrived.of_eq rfl rfl rfl rfl

theorem constructions_attempted (session : Session) (cell : Nat) (tag : String)
    (references : List String) (product : Except Fault Parser) :
    constructions (session.attempted cell tag references).events =
      (([session.arrival cell tag product].filter (·.tries)).map (·.tag)).reverse ++
        constructions session.events := by
  simp only [Session.events_attempted, Session.arrival, List.filter_cons, List.filter_nil]
  cases session.built.contains cell <;> rfl

theorem leads_attempted (session : Session) (cell : Nat) (tag : String) (references : List String)
    (fault : Fault) :
    Leads session [session.arrival cell tag (.error fault)]
      (session.attempted cell tag references) where
  orderly := ⟨rfl, trivial⟩
  built_eq := by
    rw [Session.built_attempted, List.foldl_cons, List.foldl_nil, mark, builds_eq_false rfl]
    rfl
  constructions_eq := constructions_attempted session cell tag references (.error fault)

theorem leads_opened (session : Session) (cell : Nat) (tag : String) (references : List String)
    (body : Parser) :
    Leads session [session.arrival cell tag (.ok body)] (session.opened cell tag references) where
  orderly := ⟨rfl, trivial⟩
  built_eq := by
    simp only [Session.built_opened, List.foldl_cons, List.foldl_nil, mark, builds, Session.arrival]
    cases session.built.contains cell <;> rfl
  constructions_eq := by
    rw [Session.events_opened]
    exact constructions_attempted session cell tag references (.ok body)

/-- A construction that ends with a fault ends the run. -/
theorem arrived_attempted (session : Session) (cell : Nat) (tag : String)
    (references : List String) (fault : Fault) :
    Arrived session [session.arrival cell tag (.error fault)]
      (.error fault, session.attempted cell tag references) := by
  refine ⟨leads_attempted session cell tag references fault, ?_⟩
  cases tries : (session.arrival cell tag (.error fault)).tries with
  | true => exact .raised (List.forall_mem_nil _) tries rfl
  | false =>
      refine .calm _ (List.forall_mem_singleton.mpr ?_)
      rw [raises, tries]
      rfl

/-- A construction that ends with a parser is followed by the run of the parser. -/
theorem Arrived.opened {cell : Nat} {tag : String} {references : List String} {body : Parser}
    (arrived : Arrived (session.opened cell tag references) arrivals ran) :
    Arrived session (session.arrival cell tag (.ok body) :: arrivals) ran := by
  have calm : (session.arrival cell tag (.ok body)).raises = false := raises_eq_false rfl
  exact ⟨(leads_opened session cell tag references body).trans arrived.leads,
    arrived.ends.append (List.forall_mem_singleton.mpr calm)⟩

end Arrival

namespace Parser

/-- The arrivals of a run, down to a given depth, in order. -/
def arrivalsWithin (environment : Environment) :
    Nat → Parser → Cursor → Session → List Arrival
  | 0, _, _, _ => []
  | depth + 1, parser, cursor, session =>
      let nested := (partRuns environment depth parser cursor session).flatMap fun part =>
        arrivalsWithin environment depth part.parser part.cursor part.session
      match parser with
      | deferred cell tag _ product => session.arrival cell tag product :: nested
      | _ => nested

/-- A run ends with its arrivals. -/
theorem arrived_arrivalsWithin (environment : Environment) (depth : Nat) (parser : Parser)
    (cursor : Cursor) (session : Session) :
    Arrival.Arrived session (arrivalsWithin environment depth parser cursor session)
      (runWithin environment depth parser cursor session) := by
  induction depth generalizing parser cursor session with
  | zero => exact Arrival.composes_arrived.answer session (.error .unbounded)
  | succ depth induction =>
      have tells (part : Parser) : Tells Arrival.Arrived (runWithin environment depth)
          (fun part => arrivalsWithin environment depth part.parser part.cursor part.session)
          part := induction part
      cases parser with
      | traced name body =>
          simp only [arrivalsWithin, partRuns, List.flatMap_cons, List.flatMap_nil,
            List.append_nil, runWithin]
          split
          · exact (induction body cursor _).traced
          · exact induction body cursor session
      | observed tag body =>
          have arrived := induction body cursor (session.report (.reached tag cursor.offset))
          simp only [arrivalsWithin, partRuns, List.flatMap_cons, List.flatMap_nil,
            List.append_nil]
          exact arrived.of_eq rfl rfl rfl rfl
      | deferred cell tag references product =>
          cases product with
          | error fault =>
              simp only [runWithin, Action.deferred_error]
              exact Arrival.arrived_attempted session cell tag references fault
          | ok body =>
              have arrived := induction body cursor (session.opened cell tag references)
              simp only [arrivalsWithin, partRuns, List.flatMap_cons, List.flatMap_nil,
                List.append_nil, runWithin, Action.deferred_ok]
              exact arrived.opened
      | _ =>
          exact Arrival.composes_arrived.runWithin tells _ (by simp) (by simp) (by simp) cursor
            session

end Parser

end Descent
