import Descent.Proofs.Parser.Activation
import Descent.Proofs.RuleSet.Task

/-!
# Traces change the log and nothing else

Two ways to carry out the same tasks may differ in the traces of the drafts, in whether references
are traced, and in the log levels.  The answers are the same, and so are the grammars and the
sessions, but for traces and logs: the rules that were mentioned, the deferred parsers that were
built and the events that observed parsers reported, in their order.  To the log a run adds the
records of its activations at the lowest level, and nothing at the others.
-/

namespace Descent

namespace Session

/-- The session without its log. -/
def unlogged (session : Session) : Session := { session with log := [] }

theorem unlogged_taking (session : Session) (names : List String) (cells : Nat) :
    (session.taking names cells).unlogged = session.unlogged.taking names cells := rfl

theorem unlogged_mention (session : Session) (name : String) :
    (session.mention name).unlogged = session.unlogged.mention name := by
  rw [mention_eq_taking, mention_eq_taking]
  rfl

theorem unlogged_attempted (session : Session) (cell : Nat) (tag : String)
    (references : List String) :
    (session.attempted cell tag references).unlogged =
      session.unlogged.attempted cell tag references := by
  simp only [attempted, mentionAll_eq, unlogged]
  split <;> rfl

theorem unlogged_opened (session : Session) (cell : Nat) (tag : String)
    (references : List String) :
    (session.opened cell tag references).unlogged =
      session.unlogged.opened cell tag references := by
  have attempted_eq := session.unlogged_attempted cell tag references
  simp only [opened]
  change _ = if session.built.contains cell = true then _ else _
  split
  · rfl
  · rw [← attempted_eq]
    rfl

/-- To be the same but for the log is a likeness for which log entries do not matter. -/
theorem isLogBlind_unlogged :
    IsLogBlind id fun session other => session.unlogged = other.unlogged where
  report event same := congrArg (report · event) same
  note _ same := same
  attempted tag references cells same := by
    rw [id_eq, id_eq] at cells
    rw [unlogged_attempted, unlogged_attempted, cells, same]
  opened tag references cells same := by
    rw [id_eq, id_eq] at cells
    rw [unlogged_opened, unlogged_opened, cells, same]
  idempotent _ := rfl
  equivalence := ⟨fun _ => rfl, Eq.symm, Eq.trans⟩
  note_left _ same := same

end Session

/-! ## What runs add to the log -/

namespace Activation

/-- The wording of the record that closes an activation, unless a fault passes through it. -/
def closingMessages (name : String) (start : Nat) : Except Fault Outcome → List String
  | .ok (.matched _ next) => [s!"{name} matched {start}..{next.offset}"]
  | .ok (.failed failure) => [s!"{name} failed at {failure.offset}, expected {failure.expected}"]
  | .error _ => []

theorem messages_entries (name : String) (start : Nat) (nested : List Activation)
    (answer : Except Fault Outcome) :
    (node name start nested answer).entries.map Entry.message =
      s!"trying {name} at {start}" ::
        ((entriesAll nested).map Entry.message ++ closingMessages name start answer) := by
  have closing_eq :
      (closing name start answer).map Entry.message = closingMessages name start answer := by
    rcases answer with fault | ⟨value, next⟩ | failure <;> rfl
  rw [entries, List.map_cons, List.map_append, closing_eq]
  rfl

end Activation

namespace Parser

variable {environment : Environment}

/-- The activations of a run. -/
def activations (environment : Environment) (parser : Parser) (cursor : Cursor)
    (session : Session) : List Activation :=
  activationsWithin environment (sufficientDepth environment parser cursor) parser cursor session

/-- Parsers whose traces are off write nothing to the log. -/
theorem log_run_of_silent (silent : environment.tracing = false) (parser : Parser)
    (cursor : Cursor) (session : Session) :
    (parser.run environment cursor session).2.log = session.log := by
  refine parser.run_keeps (fun after => after.log = session.log) (fun tracing => ?_)
    (fun _ _ kept => kept) (fun _ after kept => (after.log_attempted ..).trans kept)
    (fun _ _ kept => kept) cursor rfl
  rw [silent] at tracing
  cases tracing

theorem map_fst_bareRules (number : Nat → Nat) (rules : List (String × Parser)) :
    (bareRules number rules).map Prod.fst = rules.map Prod.fst :=
  List.map_map

end Parser

/-! ## Drafts and tasks that differ in traces -/

/-- But for their traces, equal tasks are equal, or they add one rule by drafts that are so. -/
theorem Task.eq_or_define_of_untraced_eq {first second : Task}
    (same : first.untraced = second.untraced) :
    (second = first ∧ first.definition? = none) ∨
      ∃ name draft other, first = define name draft ∧ second = define name other ∧
        draft.untraced = other.untraced := by
  cases first with
  | define name draft =>
      cases second with
      | define other otherDraft =>
          simp only [untraced, define.injEq] at same
          obtain ⟨rfl, draft_eq⟩ := same
          exact .inr ⟨name, draft, otherDraft, rfl, rfl, draft_eq⟩
      | _ => cases same
  | _ =>
      refine .inl ⟨?_, rfl⟩
      cases second with
      | define => cases same
      | _ => exact same.symm

namespace Workshop

/-- Grammars in the making that are the same but for traces and logs. -/
structure SameButTraces (workshop other : Workshop) : Prop where
  name_eq : other.set.name = workshop.set.name
  rules_eq : Parser.bareRules id other.set.rules = Parser.bareRules id workshop.set.rules
  kept_eq : Parser.bareRules id other.kept = Parser.bareRules id workshop.kept
  session_eq : other.session.unlogged = workshop.session.unlogged

namespace SameButTraces

variable {workshop other : Workshop} {level otherLevel : Level} {direct : Prop}

theorem symm (same : SameButTraces workshop other) : SameButTraces other workshop :=
  ⟨same.name_eq.symm, same.rules_eq.symm, same.kept_eq.symm, same.session_eq.symm⟩

theorem names_eq (same : SameButTraces workshop other) : other.set.names = workshop.set.names := by
  have map_eq := congrArg (List.map Prod.fst) same.rules_eq
  rwa [Parser.map_fst_bareRules, Parser.map_fst_bareRules] at map_eq

theorem contains_eq (same : SameButTraces workshop other) (name : String) :
    other.set.contains name = workshop.set.contains name := by
  rw [RuleSet.contains, same.names_eq, RuleSet.contains]

theorem cells_eq (same : SameButTraces workshop other) :
    other.session.cells = workshop.session.cells :=
  (congrArg Session.cells same.session_eq :)

theorem referenced_eq (same : SameButTraces workshop other) :
    other.session.referenced = workshop.session.referenced :=
  (congrArg Session.referenced same.session_eq :)

theorem lookup_kept (same : SameButTraces workshop other) (name : String) :
    (other.kept.lookup name).map (Parser.bare id) =
      (workshop.kept.lookup name).map (Parser.bare id) := by
  rw [← Parser.lookup_bareRules, ← Parser.lookup_bareRules, same.kept_eq]

theorem resembles (same : SameButTraces workshop other) (level otherLevel : Level)
    (excused : Fault → Prop) :
    (workshop.set.environment level).Resembles id excused (other.set.environment otherLevel) := by
  refine Environment.resembles_of_lookup_eq same.name_eq (fun name => ?_) excused
  change (other.set.rules.lookup name).map _ = (workshop.set.rules.lookup name).map _
  rw [← Parser.lookup_bareRules, ← Parser.lookup_bareRules, same.rules_eq]

theorem inSession (same : SameButTraces workshop other) {session otherSession : Session}
    (session_eq : otherSession.unlogged = session.unlogged) :
    SameButTraces { workshop with session := session } { other with session := otherSession } :=
  ⟨same.name_eq, same.rules_eq, same.kept_eq, session_eq⟩

theorem takeReference (same : SameButTraces workshop other) (name : String) :
    SameButTraces (workshop.takeReference name) (other.takeReference name) where
  name_eq := same.name_eq
  rules_eq := same.rules_eq
  kept_eq := by
    have pointers : (other.set.pointer name).bare id = (workshop.set.pointer name).bare id := by
      rw [RuleSet.bare_pointer, RuleSet.bare_pointer]
    exact congrArg₂ List.cons (congrArg (Prod.mk name) pointers) same.kept_eq
  session_eq := by
    change (other.session.mention name).unlogged = (workshop.session.mention name).unlogged
    rw [Session.unlogged_mention, Session.unlogged_mention, same.session_eq]

theorem install (same : SameButTraces workshop other) (name : String) {parser otherParser : Parser}
    (parser_eq : otherParser.bare id = parser.bare id) :
    (other.install name otherParser).1 = (workshop.install name parser).1 ∧
      SameButTraces (workshop.install name parser).2 (other.install name otherParser).2 := by
  have rules_eq : Parser.bareRules id (other.set.rules ++ [(name, otherParser)]) =
      Parser.bareRules id (workshop.set.rules ++ [(name, parser)]) := by
    have before := same.rules_eq
    simp only [Parser.bareRules, List.map_append, List.map_cons, List.map_nil, parser_eq]
      at before ⊢
    rw [before]
  have added : SameButTraces
      { workshop with
        set := { workshop.set with rules := workshop.set.rules ++ [(name, parser)] }
        session := workshop.session.note (.ruleDefined workshop.set.name name) }
      { other with
        set := { other.set with rules := other.set.rules ++ [(name, otherParser)] }
        session := other.session.note (.ruleDefined other.set.name name) } :=
    ⟨same.name_eq, rules_eq, same.kept_eq, same.session_eq⟩
  simp only [Workshop.install, RuleSet.define, same.contains_eq]
  cases workshop.set.contains name with
  | true => exact ⟨by simp only [if_true, same.name_eq], same⟩
  | false => exact ⟨rfl, added.takeReference name⟩

theorem define (same : SameButTraces workshop other) (name : String) {draft otherDraft : Draft}
    (draft_eq : draft.untraced = otherDraft.untraced) :
    (other.perform otherLevel (Task.define name otherDraft).step).1 =
        (workshop.perform level (Task.define name draft).step).1 ∧
      SameButTraces (workshop.perform level (Task.define name draft).step).2
        (other.perform otherLevel (Task.define name otherDraft).step).2 := by
  have peers : Peers id workshop.session.cells other.session.cells := fun count => by
    rw [same.cells_eq]
  have built_eq := Draft.map_bare_construct_eq draft_eq workshop.set other.set peers
  have sessions : ((otherDraft.construct other.set).build other.session).2.unlogged =
      ((draft.construct workshop.set).build workshop.session).2.unlogged := by
    rw [Draft.after_construct_eq draft_eq workshop.set other.set same.cells_eq,
      Draft.after_construct, Session.unlogged_taking, Session.unlogged_taking,
      same.session_eq]
    rfl
  simp only [Task.step, Workshop.perform]
  generalize (draft.construct workshop.set).build workshop.session = ran,
    (otherDraft.construct other.set).build other.session = otherRan at built_eq sessions ⊢
  rcases ran with ⟨fault | parser, session⟩ <;>
    rcases otherRan with ⟨otherFault | otherParser, otherSession⟩
  · cases built_eq
    exact ⟨rfl, same.inSession sessions⟩
  · cases built_eq
  · cases built_eq
  · exact (same.inSession sessions).install name (Except.ok.inj built_eq)

theorem run (same : SameButTraces workshop other) (sound : other.IsSound direct) (name : String)
    (source : Source) (offset : Int)
    (ended : (workshop.runKept level name source offset).1 ≠ .error .unbounded) :
    (other.runKept otherLevel name source offset).1 =
        (workshop.runKept level name source offset).1 ∧
      SameButTraces (workshop.runKept level name source offset).2
        (other.runKept otherLevel name source offset).2 := by
  have kept_eq := same.lookup_kept name
  simp only [runKept] at ended ⊢
  cases kept : workshop.kept.lookup name with
  | none =>
      rw [kept, Option.map_none, Option.map_eq_none_iff] at kept_eq
      rw [kept_eq]
      exact ⟨rfl, same⟩
  | some parser =>
      rw [kept, Option.map_some, Option.map_eq_some_iff] at kept_eq
      obtain ⟨otherParser, otherKept, bare_eq⟩ := kept_eq
      rw [otherKept]
      simp only [kept] at ended
      cases located : Cursor.locate source offset with
      | error fault => exact ⟨rfl, same⟩
      | ok cursor =>
          simp only [located] at ended
          dsimp only
          have forward : otherParser.IsForward (other.set.environment otherLevel) := by
            rw [(sound.kept (RuleSet.mem_of_lookup otherKept)).1]
            exact sound.isForward_pointer otherLevel name
          have runEnded (fault : Fault) (unbounded : fault.IsUnbounded) :
              (parser.run (workshop.set.environment level) cursor workshop.session).1 ≠
                .error fault := by
            intro raised
            obtain rfl : fault = .unbounded := unbounded
            exact ended (congrArg (Except.map Answer.outcome) raised)
          have cutOff : Fault.IsUnbounded .unbounded := rfl
          obtain ⟨answer_eq, sessions⟩ :=
            Parser.run_of_resembles Session.isLogBlind_unlogged cutOff
              (same.resembles level otherLevel Fault.IsUnbounded) bare_eq.symm forward runEnded
              same.session_eq.symm
          exact ⟨congrArg (Except.map Answer.outcome) answer_eq, same.inSession sessions.symm⟩

/-- A task is carried out in the same way. -/
theorem perform (same : SameButTraces workshop other) (sound : other.IsSound direct)
    (otherLevel : Level) {task otherTask : Task} (task_eq : task.untraced = otherTask.untraced)
    (ended : (workshop.perform level task.step).1 ≠ .error .unbounded) :
    (other.perform otherLevel otherTask.step).1 = (workshop.perform level task.step).1 ∧
      SameButTraces (workshop.perform level task.step).2
        (other.perform otherLevel otherTask.step).2 := by
  have length_eq : other.set.rules.length = workshop.set.rules.length := by
    simpa only [RuleSet.names, List.length_map] using congrArg List.length same.names_eq
  rcases task.eq_or_define_of_untraced_eq task_eq with
    ⟨rfl, noDefinition⟩ | ⟨name, draft, otherDraft, rfl, rfl, draft_eq⟩
  · cases otherTask with
    | define => cases noDefinition
    | reference name => exact ⟨rfl, same.takeReference name⟩
    | run name source offset => exact same.run sound name source offset ended
    | names | size | display | contains | checkComplete =>
        refine ⟨?_, same⟩
        simp only [Task.step, Workshop.perform, RuleSet.display, RuleSet.checkComplete,
          RuleSet.missing, same.names_eq, length_eq, same.name_eq, same.contains_eq,
          same.referenced_eq]
  · exact same.define name draft_eq

/-- Tasks are carried out in the same way, as long as all runs end. -/
theorem work (same : SameButTraces workshop other) (sound : other.IsSound False)
    {tasks others : List (Level × Task)}
    (tasks_eq : tasks.map (fun entry => entry.2.untraced) =
      others.map fun entry => entry.2.untraced)
    (ended : ∀ answer ∈ (workshop.work tasks).1, answer ≠ .error .unbounded) :
    (other.work others).1 = (workshop.work tasks).1 ∧
      SameButTraces (workshop.work tasks).2 (other.work others).2 := by
  induction tasks generalizing workshop other others with
  | nil =>
      rw [List.map_nil, eq_comm, List.map_eq_nil_iff] at tasks_eq
      subst tasks_eq
      exact ⟨rfl, same⟩
  | cons entry tasks induction =>
      obtain ⟨level, task⟩ := entry
      obtain ⟨⟨otherLevel, otherTask⟩, others, rfl, task_eq, rest_eq⟩ :=
        List.map_eq_cons_iff.mp tasks_eq.symm
      obtain ⟨endedHere, endedLater⟩ := List.forall_mem_cons.mp ended
      obtain ⟨answer_eq, next⟩ :=
        same.perform sound otherLevel task_eq.symm endedHere
      have nextSound := sound.performed False.elim (performed otherLevel other otherTask)
      obtain ⟨answers_eq, last⟩ := induction next nextSound rest_eq.symm endedLater
      exact ⟨congrArg₂ List.cons answer_eq answers_eq, last⟩

end SameButTraces

/--
Traces, their switch and the log levels change no answer, and the rules, the mentions, the deferred
parsers that are built and the events are the same; if all runs end in one case, they do in the
other.  Parsers write nothing to the log above the lowest level; there they write the records of the
activations of their runs.
-/
theorem traces_change_the_log_only (name : String) (tracing otherTracing : Bool)
    {tasks others : List (Level × Task)}
    (tasks_eq : tasks.map (fun entry => entry.2.untraced) =
      others.map fun entry => entry.2.untraced)
    (ended : (∀ answer ∈ ((start name tracing).work tasks).1, answer ≠ .error .unbounded) ∨
      ∀ answer ∈ ((start name otherTracing).work others).1, answer ≠ .error .unbounded) :
    (((start name otherTracing).work others).1 = ((start name tracing).work tasks).1 ∧
        SameButTraces ((start name tracing).work tasks).2
          ((start name otherTracing).work others).2) ∧
      (∀ (set : RuleSet) (level : Level) (parser : Parser) (cursor : Cursor) (session : Session),
        (level ≠ .debug →
            (parser.run (set.environment level) cursor session).2.log = session.log) ∧
          (level = .debug →
            Activation.Logged session
              (parser.activations (set.environment level) cursor session)
              (parser.run (set.environment level) cursor session))) ∧
      ∀ (name : String) (start : Nat) (nested : List Activation) (answer : Except Fault Outcome),
        (Activation.node name start nested answer).entries.map Entry.message =
          s!"trying {name} at {start}" ::
            ((Activation.entriesAll nested).map Entry.message ++
              Activation.closingMessages name start answer) := by
  have begun : SameButTraces (start name tracing) (start name otherTracing) :=
    ⟨rfl, rfl, rfl, rfl⟩
  refine ⟨?_, fun set level parser cursor session => ⟨fun above => ?_, fun lowest => ?_⟩,
    Activation.messages_entries⟩
  · rcases ended with ended | ended
    · exact begun.work (isSound_start False name otherTracing) tasks_eq ended
    · obtain ⟨answers_eq, same⟩ :=
        begun.symm.work (isSound_start False name tracing) tasks_eq.symm ended
      exact ⟨answers_eq.symm, same.symm⟩
  · have silent : (set.environment level).tracing = false := by
      cases level with
      | debug => exact absurd rfl above
      | info | warning => rfl
    exact parser.log_run_of_silent silent cursor session
  · subst lowest
    exact Parser.logged_activationsWithin rfl _ parser cursor session

/-- A word that is read with all traces at the lowest level, and without any at other levels. -/
theorem traces_of_a_word :
    let source : Source := ⟨['h', 'i'], 2, rfl⟩
    let tasks : List (Level × Task) :=
      [(.debug, .define "word" (.deferred "letters" (.traced "letters" (.literal "hi")))),
        (.debug, .run "word" source 0)]
    let others : List (Level × Task) :=
      [(.info, .define "word" (.deferred "letters" (.literal "hi"))),
        (.warning, .run "word" source 0)]
    ((start "greetings" false).work others).1 = ((start "greetings" true).work tasks).1 ∧
      ((start "greetings" false).work others).2.session.events =
        ((start "greetings" true).work tasks).2.session.events ∧
      ((start "greetings" true).work tasks).2.session.log.reverse.map Entry.message =
        ["Defined rule greetings.word", "trying greetings.word at 0", "trying letters at 0",
          "letters matched 0..2", "greetings.word matched 0..2"] := by
  intro source tasks others
  have answers : ∃ cursor, ((start "greetings" true).work tasks).1 =
      [.ok .done, .ok (.outcome (.matched (.text "hi") cursor))] := ⟨_, rfl⟩
  have ended : ∀ answer ∈ ((start "greetings" true).work tasks).1,
      answer ≠ .error .unbounded := by
    obtain ⟨cursor, answers_eq⟩ := answers
    rw [answers_eq]
    simp
  obtain ⟨answers_eq, same⟩ :=
    (@traces_change_the_log_only "greetings" true false tasks others rfl (.inl ended)).1
  exact ⟨answers_eq, (congrArg Session.events same.session_eq :), by decide +kernel⟩

end Workshop

end Descent
