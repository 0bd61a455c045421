import Descent.Proofs.Parser.Mention
import Descent.Proofs.Parser.PartRun

/-!
# Activations of traced parsers

A run of a parser runs its parts, and these run theirs: the traced parsers among them are the
activations of the run, and they are nested as the runs are.  The log of a run consists of the
records of its activations: what an activation writes stands between its opening and its closing
record.  A run that returns has closed all its activations; a fault leaves those open that it passes
through, each the last one in the other, and no more.
-/

namespace Descent

/-! ## Activations -/

/-- The run of a traced parser: its name, where it was started, what it ran and how it ended. -/
inductive Activation where
  | node (name : String) (start : Nat) (nested : List Activation) (answer : Except Fault Outcome)

namespace Activation

/-- The record that closes an activation, unless a fault passes through it. -/
def closing (name : String) (start : Nat) : Except Fault Outcome → List Entry
  | .ok (.matched _ next) => [.matched name start next.offset]
  | .ok (.failed failure) => [.failed name failure.offset failure.expected]
  | .error _ => []

mutual

/-- The records of an activation, the first one first. -/
def entries : Activation → List Entry
  | node name start nested answer =>
      .trying name start :: (entriesAll nested ++ closing name start answer)

/-- The records of some activations. -/
def entriesAll : List Activation → List Entry
  | [] => []
  | activation :: activations => entries activation ++ entriesAll activations

end

/-- An activation that returned, as all activations in it did. -/
inductive IsClosed : Activation → Prop where
  | node (name : String) (start : Nat) {nested : List Activation}
      (closed : ∀ activation ∈ nested, IsClosed activation) (outcome : Outcome) :
      IsClosed (node name start nested (.ok outcome))

/-- The activations of a run that ends in a certain way. -/
inductive EndsWith : Except Fault Outcome → List Activation → Prop where
  /-- A run that returns has closed all its activations. -/
  | returned (outcome : Outcome) {forest : List Activation}
      (closed : ∀ activation ∈ forest, activation.IsClosed) : EndsWith (.ok outcome) forest
  /-- The fault is raised outside of activations. -/
  | raised (fault : Fault) {forest : List Activation}
      (closed : ∀ activation ∈ forest, activation.IsClosed) : EndsWith (.error fault) forest
  /-- The fault passes through the last activation, which it leaves open. -/
  | left (fault : Fault) {before : List Activation}
      (closed : ∀ activation ∈ before, activation.IsClosed) (name : String) (start : Nat)
      {nested : List Activation} (inner : EndsWith (.error fault) nested) :
      EndsWith (.error fault) (before ++ [node name start nested (.error fault)])

theorem entriesAll_append (first second : List Activation) :
    entriesAll (first ++ second) = entriesAll first ++ entriesAll second := by
  induction first with
  | nil => rfl
  | cons activation activations induction =>
      rw [List.cons_append, entriesAll, entriesAll, induction, List.append_assoc]

/-- A run ended with these activations: they make up what it wrote to the log. -/
structure Logged (session : Session) (forest : List Activation)
    (ran : Except Fault Outcome × Session) : Prop where
  log_eq : ran.2.log = (entriesAll forest).reverse ++ session.log
  ends : EndsWith ran.1 forest

variable {session after : Session} {forest first second : List Activation} {outcome : Outcome}
  {ran : Except Fault Outcome × Session}

theorem logged_answer (session : Session) (answer : Except Fault Outcome) :
    Logged session [] (answer, session) := by
  have none : ∀ activation ∈ ([] : List Activation), activation.IsClosed := List.forall_mem_nil _
  cases answer with
  | error fault => exact ⟨rfl, .raised fault none⟩
  | ok outcome => exact ⟨rfl, .returned outcome none⟩

theorem EndsWith.closed (ends : EndsWith (.ok outcome) forest) :
    ∀ activation ∈ forest, activation.IsClosed := by
  cases ends with
  | returned _ closed => exact closed

theorem EndsWith.append {answer : Except Fault Outcome} (returned : EndsWith (.ok outcome) first)
    (ends : EndsWith answer second) : EndsWith answer (first ++ second) := by
  have joined {others : List Activation} (closed : ∀ activation ∈ others, activation.IsClosed) :
      ∀ activation ∈ first ++ others, activation.IsClosed :=
    List.forall_mem_append.mpr ⟨returned.closed, closed⟩
  cases ends with
  | returned outcome closed => exact .returned outcome (joined closed)
  | raised fault closed => exact .raised fault (joined closed)
  | left fault closed name start inner =>
      rw [← List.append_assoc]
      exact .left fault (joined closed) name start inner

/-- A run that returned, and another one after it. -/
theorem Logged.append (returned : Logged session first (.ok outcome, after))
    (logged : Logged after second ran) : Logged session (first ++ second) ran where
  log_eq := by
    rw [logged.log_eq, returned.log_eq, entriesAll_append, List.reverse_append, List.append_assoc]
  ends := returned.ends.append logged.ends

/-- How a run returned is of no account for its records. -/
theorem Logged.ok (returned : Logged session forest (.ok outcome, after)) (other : Outcome) :
    Logged session forest (.ok other, after) :=
  ⟨returned.log_eq, .returned other returned.ends.closed⟩

/-- A run in a session with the same log. -/
theorem Logged.of_log_eq {other : Session} (logged : Logged other forest ran)
    (log_eq : other.log = session.log) : Logged session forest ran :=
  ⟨log_eq ▸ logged.log_eq, logged.ends⟩

/-- The records of activations compose. -/
theorem composes_logged : Composes Logged where
  answer := logged_answer
  ok := Logged.ok
  append := Logged.append

theorem Logged.traced {body : Action} {name : String} {cursor : Cursor}
    (logged : Logged (session.note (.trying name cursor.offset)) forest
      (body cursor (session.note (.trying name cursor.offset)))) :
    Logged session
      [node name cursor.offset forest (Action.traced name body cursor session).1]
      (Action.traced name body cursor session) := by
  simp only [Action.traced]
  generalize body cursor (session.note _) = ran at logged ⊢
  obtain ⟨log_eq, ends⟩ := logged
  have none_before : ∀ activation ∈ ([] : List Activation), activation.IsClosed :=
    fun _ mem => absurd mem List.not_mem_nil
  rcases ran with ⟨fault | outcome, after⟩
  · refine ⟨?_, .left fault none_before name cursor.offset ends⟩
    simp only [entriesAll, entries, closing, List.append_nil, List.reverse_cons, List.append_assoc]
    exact log_eq
  · refine ⟨?_, .returned outcome fun activation mem => ?_⟩
    · have note_eq : entriesAll [node name cursor.offset forest (.ok outcome)] =
          .trying name cursor.offset ::
            (entriesAll forest ++ [Action.closing name cursor.offset outcome]) := by
        cases outcome <;> simp only [entriesAll, entries, closing, Action.closing, List.append_nil]
      rw [note_eq]
      simp only [List.reverse_cons, List.reverse_append, List.reverse_nil, List.nil_append,
        List.append_assoc, List.cons_append]
      exact congrArg (_ :: ·) log_eq
    · rw [List.mem_singleton.mp mem]
      exact .node name cursor.offset ends.closed outcome

end Activation

namespace Parser

/-- The activations of a run, down to a given depth; nested ones are inside of others. -/
def activationsWithin (environment : Environment) :
    Nat → Parser → Cursor → Session → List Activation
  | 0, _, _, _ => []
  | depth + 1, parser, cursor, session =>
      let nested := (partRuns environment depth parser cursor session).flatMap fun part =>
        activationsWithin environment depth part.parser part.cursor part.session
      match parser with
      | traced name _ =>
          if environment.tracing then
            [.node name cursor.offset nested
              (runWithin environment (depth + 1) parser cursor session).1]
          else nested
      | _ => nested

/-- When traced parsers write to the log, it consists of the records of the activations. -/
theorem logged_activationsWithin {environment : Environment} (tracing : environment.tracing = true)
    (depth : Nat) (parser : Parser) (cursor : Cursor) (session : Session) :
    Activation.Logged session (activationsWithin environment depth parser cursor session)
      (runWithin environment depth parser cursor session) := by
  induction depth generalizing parser cursor session with
  | zero => exact Activation.logged_answer session (.error .unbounded)
  | succ depth induction =>
      have tells (part : Parser) : Tells Activation.Logged (runWithin environment depth)
          (fun part => activationsWithin environment depth part.parser part.cursor part.session)
          part := induction part
      cases parser with
      | traced name body =>
          have logged := induction body cursor (session.note (.trying name cursor.offset))
          simp only [activationsWithin, partRuns, List.flatMap_cons, List.flatMap_nil,
            List.append_nil, runWithin, tracing, if_true]
          exact logged.traced
      | observed tag body =>
          have logged := induction body cursor (session.report (.reached tag cursor.offset))
          simp only [activationsWithin, partRuns, List.flatMap_cons, List.flatMap_nil,
            List.append_nil]
          exact logged.of_log_eq rfl
      | deferred cell tag references product =>
          cases product with
          | error fault =>
              simp only [runWithin, Action.deferred_error]
              exact (Activation.logged_answer _ (.error fault)).of_log_eq
                (session.log_attempted ..)
          | ok body =>
              have logged := induction body cursor (session.opened cell tag references)
              simp only [activationsWithin, partRuns, List.flatMap_cons, List.flatMap_nil,
                List.append_nil, runWithin, Action.deferred_ok]
              exact logged.of_log_eq (session.log_opened ..)
      | _ =>
          exact Activation.composes_logged.runWithin tells _ (by simp) (by simp) (by simp) cursor
            session

end Parser

end Descent
