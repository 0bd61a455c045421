import Descent.Proofs.Parser.Fault
import Descent.Proofs.RuleSet.Draft

/-!
# Work on a grammar

A task is one step of work on a grammar, its rules being given as drafts.  What a task can do is
said once, in `Workshop.Performed`: it may add a rule, keep a reference or change the session, and
nothing else.  A grammar in the making is sound when its rules are built from drafts and all
references that are kept are those that the grammar hands out; tasks keep it sound.
-/

namespace Descent

/-- One step of work on a grammar. -/
inductive Task where
  /-- Build a parser, add it as a rule and keep a reference to the rule. -/
  | define (name : String) (draft : Draft)
  /-- Take a reference to a rule and keep it. -/
  | reference (name : String)
  /-- Run a kept reference at an offset of a text. -/
  | run (name : String) (source : Source) (offset : Int)
  | names
  | size
  | display
  | contains (name : String)
  | checkComplete

namespace Task

/-- The step of a task. -/
def step : Task → Workshop.Step
  | define name draft => .define name draft.construct
  | reference name => .reference name
  | run name source offset => .run name source offset
  | names => .names
  | size => .size
  | display => .display
  | contains name => .contains name
  | checkComplete => .checkComplete

/-- The task without the traces of its draft. -/
def untraced : Task → Task
  | define name draft => define name draft.untraced
  | task => task

/-- The rule that a task is to add. -/
def definition? : Task → Option (String × Draft)
  | define name draft => some (name, draft)
  | _ => none

/-- The references that a task takes, but for the one to the rule that it adds. -/
def mentions : Task → List String
  | define _ draft => draft.mentions
  | reference name => [name]
  | _ => []

/-- The draft of a task is direct. -/
def IsDirect : Task → Prop
  | define _ draft => draft.IsDirect
  | _ => True

end Task

/-- A construction takes the references of the draft. -/
theorem Draft.referenced_construct {set : RuleSet} {draft : Draft} {session after : Session}
    {result : Except Fault Parser}
    (built : (draft.construct set).build session = (result, after)) :
    after.referenced = addNames session.referenced draft.mentions := by
  have after_eq := after_construct set draft session
  rw [built] at after_eq
  exact congrArg Session.referenced after_eq

theorem Draft.referenced_subset_construct {set : RuleSet} {draft : Draft}
    {session after : Session} {result : Except Fault Parser}
    (built : (draft.construct set).build session = (result, after)) :
    session.referenced ⊆ after.referenced := by
  rw [referenced_construct built]
  exact fun _ mem => mem_addNames.mpr (.inl mem)

/-- A run forgets no reference. -/
theorem Parser.referenced_subset_run (parser : Parser) (environment : Environment)
    (cursor : Cursor) (session : Session) :
    session.referenced ⊆ (parser.run environment cursor session).2.referenced := by
  refine parser.run_keeps (fun after => session.referenced ⊆ after.referenced)
    (fun _ _ _ kept => kept) (fun _ _ kept => kept) (fun _ after kept => ?_)
    (fun _ _ kept => kept) cursor (List.Subset.refl _)
  rw [Session.referenced_attempted]
  exact fun _ mem => mem_addNames.mpr (.inl (kept mem))

namespace Workshop

/-- The answers to some tasks, each at its log level, and the grammar after them. -/
def work (workshop : Workshop) : List (Level × Task) → List (Except Fault Answer) × Workshop
  | [] => ([], workshop)
  | (level, task) :: tasks =>
      let (answer, next) := workshop.perform level task.step
      let (answers, last) := next.work tasks
      (answer :: answers, last)

/-- At one level, tasks are the steps of a grammar in the making. -/
theorem work_eq_performAll (workshop : Workshop) (level : Level) (tasks : List Task) :
    workshop.work (tasks.map fun task => (level, task)) =
      workshop.performAll level (tasks.map Task.step) := by
  induction tasks generalizing workshop with
  | nil => rfl
  | cons task tasks induction => simp only [List.map_cons, work, performAll, induction]

/-! ## One task -/

/-- The grammar with one more rule and a reference to it. -/
def withRule (workshop : Workshop) (name : String) (parser : Parser) (session : Session) :
    Workshop where
  set := { workshop.set with rules := workshop.set.rules ++ [(name, parser)] }
  kept := (name, workshop.set.pointer name) :: workshop.kept
  session := (session.note (.ruleDefined workshop.set.name name)).mention name

/-- What a task can do at a log level. -/
inductive Performed (level : Level) (workshop : Workshop) :
    Task → Except Fault Answer × Workshop → Prop where
  | notBuilt {name : String} {draft : Draft} {fault : Fault} {session : Session}
      (built : (draft.construct workshop.set).build workshop.session = (.error fault, session)) :
      Performed level workshop (.define name draft)
        (.error fault, { workshop with session := session })
  | redefined {name : String} {draft : Draft} {parser : Parser} {session : Session}
      (built : (draft.construct workshop.set).build workshop.session = (.ok parser, session))
      (known : workshop.set.contains name = true) :
      Performed level workshop (.define name draft)
        (.error (.ruleRedefined name workshop.set.name), { workshop with session := session })
  | defined {name : String} {draft : Draft} {parser : Parser} {session : Session}
      (built : (draft.construct workshop.set).build workshop.session = (.ok parser, session))
      (new : workshop.set.contains name = false) :
      Performed level workshop (.define name draft)
        (.ok .done, workshop.withRule name parser session)
  | referenced (name : String) :
      Performed level workshop (.reference name)
        (.ok .done,
          { workshop with
            kept := (name, workshop.set.pointer name) :: workshop.kept
            session := workshop.session.mention name })
  | ran {name : String} {source : Source} {offset : Int} {parser : Parser} {cursor : Cursor}
      (kept : workshop.kept.lookup name = some parser)
      (located : Cursor.locate source offset = .ok cursor) :
      Performed level workshop (.run name source offset)
        ((parser.run (workshop.set.environment level) cursor workshop.session).1.map .outcome,
          { workshop with
            session :=
              (parser.run (workshop.set.environment level) cursor workshop.session).2 })
  | asked {task : Task} (noDefinition : task.definition? = none) (noMention : task.mentions = [])
      (answer : Except Fault Answer) : Performed level workshop task (answer, workshop)

theorem performed (level : Level) (workshop : Workshop) (task : Task) :
    Performed level workshop task (workshop.perform level task.step) := by
  cases task with
  | define name draft =>
      simp only [Task.step, perform]
      rcases built : (draft.construct workshop.set).build workshop.session with
        ⟨fault | parser, session⟩
      · exact .notBuilt built
      · cases known : workshop.set.contains name with
        | true =>
            simp only [install, RuleSet.define, known, if_true]
            exact .redefined built known
        | false =>
            simp only [install, RuleSet.define, known]
            exact .defined built known
  | reference name => exact .referenced name
  | run name source offset =>
      simp only [Task.step, perform, runKept]
      cases kept : workshop.kept.lookup name with
      | none => exact .asked rfl rfl _
      | some parser =>
          cases located : Cursor.locate source offset with
          | error fault => exact .asked rfl rfl _
          | ok cursor => exact .ran kept located
  | names => exact .asked rfl rfl _
  | size => exact .asked rfl rfl _
  | display => exact .asked rfl rfl _
  | contains name => exact .asked rfl rfl _
  | checkComplete => exact .asked rfl rfl _

variable {level : Level} {workshop : Workshop} {task : Task}
  {ran : Except Fault Answer × Workshop} {direct : Prop}

/-- Rules are added behind the others, and the grammar hands out the same references as before. -/
theorem Performed.set_eq (performed : Performed level workshop task ran) :
    ∃ more, ran.2.set = { workshop.set with rules := workshop.set.rules ++ more } := by
  cases performed with
  | @defined name draft parser session => exact ⟨[(name, parser)], rfl⟩
  | notBuilt | redefined | referenced | ran | asked => exact ⟨[], by rw [List.append_nil]⟩

/-! ## Soundness -/

/-- Rules are built from drafts, and the references that are kept are those of the grammar. -/
structure IsSound (direct : Prop) (workshop : Workshop) : Prop where
  rules {name : String} {body node : Parser} (mem : (name, body) ∈ workshop.set.rules)
    (occurs : Parser.Occurs .empty node body) :
    IsBuiltNode direct workshop.session.referenced node
  kept {name : String} {parser : Parser} (mem : (name, parser) ∈ workshop.kept) :
    parser = workshop.set.pointer name ∧ name ∈ workshop.session.referenced

theorem isSound_start (direct : Prop) (name : String) (tracing : Bool) :
    (start name tracing).IsSound direct where
  rules mem := absurd mem List.not_mem_nil
  kept mem := absurd mem List.not_mem_nil

theorem IsSound.inSession (sound : workshop.IsSound direct) {session : Session}
    (subset : workshop.session.referenced ⊆ session.referenced) :
    IsSound direct { workshop with session := session } where
  rules mem occurs := (sound.rules mem occurs).mono id fun _ => subset
  kept mem := ⟨(sound.kept mem).1, subset (sound.kept mem).2⟩

theorem IsSound.performed (sound : workshop.IsSound direct)
    (isDirect : direct → task.IsDirect) (performed : Performed level workshop task ran) :
    ran.2.IsSound direct := by
  cases performed with
  | notBuilt built => exact sound.inSession (Draft.referenced_subset_construct built)
  | redefined built => exact sound.inSession (Draft.referenced_subset_construct built)
  | @defined name draft parser session built new =>
      have isBuilt := Draft.isBuilt_construct workshop.set draft workshop.session
      rw [built] at isBuilt
      have taken := Draft.referenced_subset_construct built
      have subset : session.referenced ⊆
          (workshop.withRule name parser session).session.referenced :=
        (session.note (.ruleDefined workshop.set.name name)).referenced_subset_mention name
      refine ⟨fun mem occurs => ?_, fun mem => ?_⟩
      · rcases List.mem_append.mp mem with old | added
        · exact (sound.rules old occurs).mono id fun _ => List.Subset.trans taken subset
        · cases List.mem_singleton.mp added
          exact (isBuilt _ occurs).mono isDirect fun _ => subset
      · rcases List.mem_cons.mp mem with head | old
        · cases head
          exact ⟨rfl, Session.mem_referenced_mention _ name⟩
        · obtain ⟨parser_eq, known⟩ := sound.kept old
          exact ⟨parser_eq, subset (taken known)⟩
  | referenced name =>
      have sound := sound.inSession (workshop.session.referenced_subset_mention name)
      refine ⟨sound.rules, fun mem => ?_⟩
      rcases List.mem_cons.mp mem with head | old
      · cases head
        exact ⟨rfl, Session.mem_referenced_mention _ name⟩
      · exact sound.kept old
  | ran => exact sound.inSession (Parser.referenced_subset_run ..)
  | asked => exact sound

/-- What occurs in a reference that a sound grammar hands out is built from drafts. -/
theorem IsSound.isBuiltNode (sound : workshop.IsSound direct) {name : String}
    (known : direct → name ∈ workshop.session.referenced) {level : Level} {node : Parser}
    (occurs : Parser.Occurs (workshop.set.environment level) node (workshop.set.pointer name)) :
    IsBuiltNode direct workshop.session.referenced node := by
  rcases occurs.node_or_rule with inside | ⟨ruleName, body, found, inside⟩
  · exact workshop.set.isBuiltNode_of_occurs_pointer known inside
  · exact sound.rules (RuleSet.mem_of_lookup found) inside

/-- The references that a sound grammar hands out go forward. -/
theorem IsSound.isForward_pointer (sound : workshop.IsSound direct) (level : Level)
    (name : String) : (workshop.set.pointer name).IsForward (workshop.set.environment level) := by
  have sound : workshop.IsSound False :=
    ⟨fun mem occurs => (sound.rules mem occurs).mono False.elim False.elim, sound.kept⟩
  exact fun answer occurs => (sound.isBuiltNode False.elim occurs).1

/-- At some log level and in some session the run of a reference gives this answer. -/
def Answers (workshop : Workshop) (reference : Parser) (cursor : Cursor)
    (answer : Except Fault Outcome) : Prop :=
  ∃ level session, (reference.run (workshop.set.environment level) cursor session).1 = answer

/-! ## Some tasks -/

/-- What every task keeps is kept by some tasks. -/
theorem work_keeps {property : Workshop → Prop} {tasks : List (Level × Task)}
    (each : ∀ level task, (level, task) ∈ tasks → ∀ {workshop : Workshop}, property workshop →
      property (workshop.perform level task.step).2)
    {workshop : Workshop} (holds : property workshop) : property (workshop.work tasks).2 := by
  induction tasks generalizing workshop with
  | nil => exact holds
  | cons entry tasks induction =>
      obtain ⟨level, task⟩ := entry
      exact induction (fun level task mem => each level task (List.mem_cons_of_mem _ mem))
        (each level task List.mem_cons_self holds)

theorem IsSound.work (sound : workshop.IsSound direct) {tasks : List (Level × Task)}
    (isDirect : direct → ∀ entry ∈ tasks, entry.2.IsDirect) :
    (workshop.work tasks).2.IsSound direct :=
  work_keeps (fun level task mem _ sound =>
    sound.performed (fun holds => isDirect holds _ mem) (Workshop.performed level _ task)) sound

theorem set_work (workshop : Workshop) (tasks : List (Level × Task)) :
    ∃ more, (workshop.work tasks).2.set =
      { workshop.set with rules := workshop.set.rules ++ more } := by
  induction tasks generalizing workshop with
  | nil => exact ⟨[], by rw [List.append_nil]; rfl⟩
  | cons entry tasks induction =>
      obtain ⟨level, task⟩ := entry
      obtain ⟨first, first_eq⟩ := (performed level workshop task).set_eq
      obtain ⟨second, second_eq⟩ := induction (workshop.perform level task.step).2
      refine ⟨first ++ second, ?_⟩
      rw [work, second_eq, first_eq, List.append_assoc]

theorem name_start_work (name : String) (tracing : Bool) (tasks : List (Level × Task)) :
    ((start name tracing).work tasks).2.set.name = name := by
  obtain ⟨more, set_eq⟩ := (start name tracing).set_work tasks
  rw [set_eq]
  rfl

end Workshop

end Descent
