import Descent.Proofs.Parser.Arrival
import Descent.Proofs.Parser.Eager

/-!
# Deferred parsers

Runs follow each other in one session, which keeps the cells that are built.  Each run has its own
rules, parser and position: the construction that a cell puts off may end in another way each time
that it is tried, while a cell that is built keeps its parser.  A construction is tried when a run
first comes to its parser, and again only after tries that ended with a fault; and no run answers in
another way than the eager form of its parser.
-/

namespace Descent

/-- A parser to be run at a position, with the rules that it refers to. -/
structure Request where
  environment : Environment
  parser : Parser
  cursor : Cursor

namespace Request

/-- The run of a request. -/
def run (request : Request) (session : Session) : Except Fault Outcome × Session :=
  request.parser.run request.environment request.cursor session

/-- The arrivals of the run of a request. -/
def arrivals (request : Request) (session : Session) : List Arrival :=
  Parser.arrivalsWithin request.environment
    (Parser.sufficientDepth request.environment request.parser request.cursor) request.parser
    request.cursor session

/-- The session that the runs of some requests, one after another, leave behind. -/
def runAll : List Request → Session → Session
  | [], session => session
  | request :: requests, session => runAll requests (request.run session).2

/-- The arrivals of the runs of some requests, one after another. -/
def arrivalsAll : List Request → Session → List Arrival
  | [], _ => []
  | request :: requests, session =>
      request.arrivals session ++ arrivalsAll requests (request.run session).2

/-- Cells that were built at some arrival keep their parsers. -/
def KeepParsers (arrivals : List Arrival) : Prop :=
  arrivals.Pairwise fun earlier later =>
    earlier.builds = true → earlier.cell = later.cell → later.product = earlier.product

theorem arrivalsAll_concat (earlier : List Request) (request : Request) (session : Session) :
    arrivalsAll (earlier ++ [request]) session =
      arrivalsAll earlier session ++ request.arrivals (runAll earlier session) := by
  induction earlier generalizing session with
  | nil => exact List.append_nil _
  | cons first earlier induction =>
      rw [List.cons_append, arrivalsAll, arrivalsAll, induction, runAll, List.append_assoc]

theorem arrived (request : Request) (session : Session) :
    Arrival.Arrived session (request.arrivals session) (request.run session) :=
  Parser.arrived_arrivalsWithin _ _ _ _ session

theorem leads_runAll (requests : List Request) (session : Session) :
    Arrival.Leads session (arrivalsAll requests session) (runAll requests session) := by
  induction requests generalizing session with
  | nil => exact Arrival.leads_refl session
  | cons request requests induction =>
      exact (request.arrived session).leads.trans (induction (request.run session).2)

/-- A construction is tried if no try before it ended with a parser. -/
theorem tries_iff {requests : List Request} {past later : List Arrival} {arrival : Arrival}
    (split : arrivalsAll requests .fresh = past ++ arrival :: later) :
    arrival.tries = true ↔ ∀ other ∈ past, other.cell = arrival.cell → other.builds = false := by
  have orderly := (leads_runAll requests .fresh).orderly
  rw [split] at orderly
  rw [orderly.tries_iff, Arrival.mem_foldl_mark]
  simp [Session.fresh]

/-- A construction that ends with a fault ends its run, and leaves the cell as it was. -/
theorem of_raises {request : Request} {session : Session} {before later : List Arrival}
    {arrival : Arrival} {fault : Fault}
    (split : request.arrivals session = before ++ arrival :: later)
    (tries : arrival.tries = true) (product_eq : arrival.product = .error fault) :
    later = [] ∧ (request.run session).1 = .error fault ∧
      arrival.cell ∉ (request.run session).2.built := by
  obtain ⟨leads, ends⟩ := request.arrived session
  rw [split] at leads ends
  obtain ⟨rfl, answer_eq⟩ := ends.of_raises tries product_eq
  refine ⟨rfl, answer_eq, ?_⟩
  have unbuilt := leads.orderly.tries_iff.mp tries
  rwa [leads.built_eq, List.foldl_append, List.foldl_cons, List.foldl_nil, Arrival.mark,
    Arrival.builds_eq_false product_eq]

/-- Without a fault, what a cell yields at an arrival is what it was built with, there or before. -/
theorem exists_builder {requests : List Request} {past later : List Arrival} {arrival : Arrival}
    (split : arrivalsAll requests .fresh = past ++ arrival :: later)
    (keep : KeepParsers (arrivalsAll requests .fresh)) (calm : arrival.raises = false) :
    ∃ builder ∈ arrivalsAll requests .fresh, builder.cell = arrival.cell ∧
      builder.builds = true ∧ builder.product = arrival.product := by
  cases tries : arrival.tries with
  | true =>
      rw [Arrival.raises, tries, Bool.true_and, Bool.not_eq_false'] at calm
      have builds : arrival.builds = true := by rw [Arrival.builds, tries, calm, Bool.and_self]
      exact ⟨arrival, split ▸ List.mem_append_right _ List.mem_cons_self, rfl, builds, rfl⟩
  | false =>
      have tried := mt (tries_iff split).mpr (Bool.eq_false_iff.mp tries)
      push Not at tried
      obtain ⟨builder, mem, same, builds⟩ := tried
      rw [Bool.ne_false_iff] at builds
      rw [KeepParsers, split] at keep
      have kept := (List.pairwise_append.mp keep).2.2 builder mem arrival List.mem_cons_self
      exact ⟨builder, split ▸ List.mem_append_left _ mem, same, builds, (kept builds same).symm⟩

/-- The answer of a run is that of a run in a fresh session. -/
theorem run_eq_outcomeAt (request : Request) (session : Session) :
    (request.run session).1 = request.parser.outcomeAt request.environment request.cursor :=
  Parser.isSteady_runWithin _ _ _ _ _ _

end Request
end Descent
