import Descent.Proofs.RuleSet.Task

/-!
# The order of definitions

A reference is looked up when it is run, so that only the rules matter that there are by then.
Which rule a name stands for can be read off the definitions alone: it is the first one of that name
whose draft can be built.  Definitions of distinct names may be carried out in any order, then, and
further work on a grammar leaves the answers of its references as they are, unless they lacked a
rule.
-/

namespace Descent

/-! ## Outlines -/

namespace Draft

/-- What is built from a draft, but for traces and the numbers of cells. -/
def outline? (draft : Draft) : Option Parser :=
  match ((draft.construct (.empty "" false)).build .fresh).1 with
  | .error _ => none
  | .ok parser => some (parser.bare fun _ => 0)

variable {draft : Draft} {set : RuleSet} {session after : Session}

/-- What is built from a draft is the same in all grammars and sessions. -/
theorem outline?_eq_of_built {result : Except Fault Parser}
    (built : (draft.construct set).build session = (result, after)) :
    draft.outline? = (result.map (Parser.bare fun _ => 0)).toOption := by
  have peers : Peers (fun _ => 0) Session.fresh.cells session.cells := fun _ => rfl
  have same := map_bare_construct_eq (rfl : draft.untraced = draft.untraced) (.empty "" false) set
    peers
  rw [built] at same
  rw [same, outline?]
  cases ((draft.construct (.empty "" false)).build .fresh).1 <;> rfl

/-- A draft has an outline when it can be built. -/
theorem exists_outline?_iff : (∃ outline, draft.outline? = some outline) ↔ draft.fault? = none := by
  have fails (fault : Fault) := @error_construct_iff (.empty "" false) draft .fresh fault
  rw [outline?]
  cases constructed : ((draft.construct (.empty "" false)).build .fresh).1 with
  | error fault =>
      rw [(fails fault).mp constructed]
      exact iff_of_false (by simp) (by simp)
  | ok parser =>
      refine iff_of_true ⟨_, rfl⟩ (Option.eq_none_iff_forall_ne_some.mpr fun fault raised => ?_)
      rw [(fails fault).mpr raised] at constructed
      cases constructed

end Draft

/-- The outlines of the rules that are defined. -/
def outlines (definitions : List (String × Draft)) : List (String × Parser) :=
  definitions.filterMap fun rule => rule.2.outline?.map (Prod.mk rule.1)

theorem mem_names_outlines {definitions : List (String × Draft)} {name : String} :
    name ∈ (outlines definitions).map Prod.fst ↔
      ∃ draft, (name, draft) ∈ definitions ∧ draft.fault? = none := by
  simp only [outlines, List.mem_map, List.mem_filterMap, Option.map_eq_some_iff,
    ← Draft.exists_outline?_iff]
  constructor
  · rintro ⟨_, ⟨⟨name, draft⟩, mem, outline, outline_eq, rfl⟩, rfl⟩
    exact ⟨draft, mem, outline, outline_eq⟩
  · rintro ⟨draft, mem, outline, outline_eq⟩
    exact ⟨_, ⟨_, mem, outline, outline_eq, rfl⟩, rfl⟩

theorem nodup_outlines {definitions : List (String × Draft)}
    (nodup : (definitions.map Prod.fst).Nodup) : ((outlines definitions).map Prod.fst).Nodup := by
  rw [List.Nodup, List.pairwise_map] at nodup ⊢
  refine nodup.filterMap _ fun first second differ outline isFirst other isSecond => ?_
  obtain ⟨_, -, rfl⟩ := Option.map_eq_some_iff.mp isFirst
  obtain ⟨_, -, rfl⟩ := Option.map_eq_some_iff.mp isSecond
  exact differ

/-- The order of entries with distinct names does not matter to those who look them up. -/
theorem lookup_eq_of_perm {α : Type} {first second : List (String × α)} (perm : first.Perm second)
    (nodup : (first.map Prod.fst).Nodup) (name : String) :
    second.lookup name = first.lookup name := by
  induction perm with
  | nil => rfl
  | @cons entry first second _ induction =>
      rw [List.map_cons, List.nodup_cons] at nodup
      rw [List.lookup_cons, List.lookup_cons, induction nodup.2]
  | swap first second rest =>
      obtain ⟨firstName, firstValue⟩ := first
      obtain ⟨secondName, secondValue⟩ := second
      simp only [List.map_cons, List.nodup_cons, List.mem_cons, not_or] at nodup
      simp only [List.lookup_cons]
      cases isFirst : name == firstName <;> cases isSecond : name == secondName
      · rfl
      · rfl
      · rfl
      · have same := (beq_iff_eq.mp isSecond).symm.trans (beq_iff_eq.mp isFirst)
        exact absurd same nodup.1.1
  | trans perm _ induction further =>
      rw [further ((perm.map Prod.fst).nodup nodup), induction nodup]

namespace Workshop

/-- The rules that some tasks are to add. -/
def definitions (tasks : List (Level × Task)) : List (String × Draft) :=
  tasks.filterMap fun entry => entry.2.definition?

variable {workshop : Workshop} {level : Level} {task : Task} {ran : Except Fault Answer × Workshop}

/-! ## Which rule a name stands for -/

/-- The rules after a task are those before it and, behind them, the one that it defines. -/
theorem Performed.lookup_rules (performed : Performed level workshop task ran) (name : String) :
    (Parser.bareRules (fun _ => 0) ran.2.set.rules).lookup name =
      ((Parser.bareRules (fun _ => 0) workshop.set.rules) ++
        outlines task.definition?.toList).lookup name := by
  cases performed with
  | @notBuilt rule draft fault session built =>
      have outline_eq : draft.outline? = none := Draft.outline?_eq_of_built built
      simp only [Task.definition?, Option.toList_some, outlines, List.filterMap_cons, outline_eq,
        Option.map_none, List.filterMap_nil, List.append_nil]
  | @redefined rule draft parser session built known =>
      have outline_eq : draft.outline? = some (parser.bare fun _ => 0) :=
        Draft.outline?_eq_of_built built
      simp only [Task.definition?, Option.toList_some, outlines, List.filterMap_cons, outline_eq,
        Option.map_some, List.filterMap_nil, List.lookup_append]
      -- The rule of the name is looked up with success, and the new one is behind it.
      by_cases same : name = rule
      · subst same
        obtain ⟨body, found⟩ := RuleSet.exists_lookup_of_contains known
        rw [Parser.lookup_bareRules, found]
        rfl
      · have differ : (name == rule) = false := beq_false_of_ne same
        rw [List.lookup_cons, differ, List.lookup_nil, Option.or_none]
  | @defined rule draft parser session built new =>
      have outline_eq : draft.outline? = some (parser.bare fun _ => 0) :=
        Draft.outline?_eq_of_built built
      simp only [Task.definition?, Option.toList_some, outlines, List.filterMap_cons, outline_eq,
        Option.map_some, List.filterMap_nil, withRule, Parser.bareRules, List.map_append,
        List.map_cons, List.map_nil]
  | referenced | ran => exact congrArg _ (List.append_nil _).symm
  | asked noDefinition =>
      rw [noDefinition]
      exact congrArg _ (List.append_nil _).symm

/-- A name stands for the first rule of that name that is defined. -/
theorem lookup_work (workshop : Workshop) (tasks : List (Level × Task)) (name : String) :
    (Parser.bareRules (fun _ => 0) (workshop.work tasks).2.set.rules).lookup name =
      ((Parser.bareRules (fun _ => 0) workshop.set.rules) ++
        outlines (definitions tasks)).lookup name := by
  induction tasks generalizing workshop with
  | nil => exact congrArg _ (List.append_nil _).symm
  | cons entry tasks induction =>
      obtain ⟨level, task⟩ := entry
      have here := (performed level workshop task).lookup_rules name
      have split : outlines (definitions ((level, task) :: tasks)) =
          outlines task.definition?.toList ++ outlines (definitions tasks) := by
        simp only [definitions, outlines, List.filterMap_cons]
        cases task.definition? with
        | none => rfl
        | some rule =>
            simp only [Option.toList_some, List.filterMap_cons, List.filterMap_nil]
            cases rule.2.outline? <;> rfl
      rw [work, induction, split, ← List.append_assoc, List.lookup_append, here,
        ← List.lookup_append]

/-- The rules that can be built are defined, whenever that happens. -/
theorem contains_start_work_iff (name : String) (tracing : Bool) (tasks : List (Level × Task))
    (rule : String) :
    ((start name tracing).work tasks).2.set.contains rule = true ↔
      ∃ draft, (rule, draft) ∈ definitions tasks ∧ draft.fault? = none := by
  have lookup_eq : (Parser.bareRules (fun _ => 0) _).lookup rule =
      (outlines (definitions tasks)).lookup rule := lookup_work (start name tracing) tasks rule
  rw [← mem_names_outlines, ← not_iff_not, Bool.not_eq_true, RuleSet.contains_eq_false_iff,
    ← RuleSet.lookup_eq_none_iff, ← lookup_eq, Parser.lookup_bareRules, Option.map_eq_none_iff]

/-- Whatever the order of definitions, names stand for the same rules. -/
theorem resembles_of_perm (name : String) (tracing otherTracing : Bool)
    {tasks others : List (Level × Task)} (perm : (definitions tasks).Perm (definitions others))
    (nodup : ((definitions tasks).map Prod.fst).Nodup) (level otherLevel : Level)
    (excused : Fault → Prop) :
    (((start name tracing).work tasks).2.set.environment level).Resembles (fun _ => 0) excused
      (((start name otherTracing).work others).2.set.environment otherLevel) := by
  refine Environment.resembles_of_lookup_eq ?_ (fun rule => ?_) excused
  · exact (name_start_work name otherTracing others).trans
      (name_start_work name tracing tasks).symm
  · have outlinesPerm : (outlines (definitions tasks)).Perm (outlines (definitions others)) :=
      perm.filterMap _
    rw [← Parser.lookup_bareRules, ← Parser.lookup_bareRules]
    calc (Parser.bareRules _ ((start name otherTracing).work others).2.set.rules).lookup rule
      _ = (outlines (definitions others)).lookup rule := lookup_work _ others rule
      _ = (outlines (definitions tasks)).lookup rule :=
          lookup_eq_of_perm outlinesPerm (nodup_outlines nodup) rule
      _ = (Parser.bareRules _ ((start name tracing).work tasks).2.set.rules).lookup rule :=
          (lookup_work (start name tracing) tasks rule).symm

/-- The run lacked a rule, or it was cut off. -/
def LacksRule (fault : Fault) : Prop := fault = .unbounded ∨ ∃ cause, fault = .undefinedRule cause

/-- With more rules behind them, names stand for the same rules as before, if for any. -/
theorem resembles_work (workshop : Workshop) (tasks : List (Level × Task))
    (level otherLevel : Level) :
    (workshop.set.environment level).Resembles (fun _ => 0) LacksRule
      ((workshop.work tasks).2.set.environment otherLevel) where
  defined {name body} found := by
    obtain ⟨more, set_eq⟩ := workshop.set_work tasks
    refine ⟨body, ?_, rfl⟩
    rw [set_eq]
    exact List.IsPrefix.lookup_eq_some (List.prefix_append _ more) found
  missing _ := .inl (.inr ⟨_, rfl⟩)

/-! ## References -/

variable {direct : Prop} {excused : Fault → Prop} {first second : Workshop} {rule : String}
  {parser other : Parser} {cursor : Cursor} {answer otherAnswer : Except Fault Outcome}

/-- References to one rule give the same answer if the rules resemble each other. -/
theorem IsSound.answer_eq_of_resembles (sound : second.IsSound direct) (cutOff : excused .unbounded)
    (resembles : ∀ level otherLevel, (first.set.environment level).Resembles (fun _ => 0) excused
      (second.set.environment otherLevel))
    (answers : first.Answers (first.set.pointer rule) cursor answer)
    (ended : ∀ fault, excused fault → answer ≠ .error fault)
    (otherAnswers : second.Answers (second.set.pointer rule) cursor otherAnswer) :
    otherAnswer = answer := by
  obtain ⟨level, session, rfl⟩ := answers
  obtain ⟨otherLevel, otherSession, rfl⟩ := otherAnswers
  have same : (first.set.pointer rule).bare (fun _ => 0) =
      (second.set.pointer rule).bare fun _ => 0 := by
    rw [RuleSet.bare_pointer, RuleSet.bare_pointer]
  exact (Parser.run_of_resembles Session.isLogBlind_true cutOff (resembles level otherLevel) same
    (sound.isForward_pointer otherLevel rule) ended trivial).1

theorem answer_eq_of_perm (name : String) (tracing otherTracing : Bool)
    {tasks others : List (Level × Task)} (perm : (definitions tasks).Perm (definitions others))
    (nodup : ((definitions tasks).map Prod.fst).Nodup)
    (mem : (rule, parser) ∈ ((start name tracing).work tasks).2.kept)
    (otherMem : (rule, other) ∈ ((start name otherTracing).work others).2.kept)
    (answers : ((start name tracing).work tasks).2.Answers parser cursor answer)
    (ended : answer ≠ .error .unbounded)
    (otherAnswers : ((start name otherTracing).work others).2.Answers other cursor otherAnswer) :
    otherAnswer = answer := by
  have sound : ((start name tracing).work tasks).2.IsSound False :=
    (isSound_start False name tracing).work False.elim
  have otherSound : ((start name otherTracing).work others).2.IsSound False :=
    (isSound_start False name otherTracing).work False.elim
  rw [(sound.kept mem).1] at answers
  rw [(otherSound.kept otherMem).1] at otherAnswers
  have cutOff : Fault.IsUnbounded .unbounded := rfl
  refine otherSound.answer_eq_of_resembles cutOff (fun level otherLevel =>
    resembles_of_perm name tracing otherTracing perm nodup level otherLevel _) answers ?_
    otherAnswers
  rintro fault rfl
  exact ended

theorem IsSound.answer_eq_of_work (sound : first.IsSound direct) {tasks : List (Level × Task)}
    (isDirect : direct → ∀ entry ∈ tasks, entry.2.IsDirect)
    (mem : (rule, parser) ∈ first.kept) (answers : first.Answers parser cursor answer)
    (ended : ∀ fault, LacksRule fault → answer ≠ .error fault)
    (otherAnswers : (first.work tasks).2.Answers parser cursor otherAnswer) :
    otherAnswer = answer := by
  have pointer_eq : (first.work tasks).2.set.pointer rule = first.set.pointer rule := by
    obtain ⟨more, set_eq⟩ := first.set_work tasks
    rw [set_eq]
    rfl
  rw [(sound.kept mem).1] at answers otherAnswers
  rw [← pointer_eq] at otherAnswers
  exact (sound.work isDirect).answer_eq_of_resembles (.inl rfl) (first.resembles_work tasks)
    answers ended otherAnswers

/-- A rule that is defined already stays as it is, whatever is built to take its place. -/
theorem perform_define_of_contains (level : Level) {workshop : Workshop}
    (known : workshop.set.contains rule = true) (draft : Draft) :
    (workshop.perform level (Task.define rule draft).step).2.set = workshop.set ∧
      (workshop.perform level (Task.define rule draft).step).2.kept = workshop.kept ∧
      (draft.fault? = none →
        (workshop.perform level (Task.define rule draft).step).1 =
          .error (.ruleRedefined rule workshop.set.name)) := by
  have done := performed level workshop (.define rule draft)
  generalize workshop.perform level (Task.define rule draft).step = ran at done ⊢
  cases done with
  | @notBuilt _ _ fault _ built =>
      have fails : draft.fault? = some fault :=
        Draft.error_construct_iff.mp (congrArg Prod.fst built)
      exact ⟨rfl, rfl, fun builds => by rw [builds] at fails; cases fails⟩
  | redefined => exact ⟨rfl, rfl, fun _ => rfl⟩
  | defined _ new =>
      rw [known] at new
      cases new
  | asked noDefinition => cases noDefinition

/--
Whatever the order of definitions with distinct names, references to one rule give the same answers,
wherever they were taken.  The rules that can be built are defined; further work changes no answer of
a reference but that a rule is lacking, and it replaces no rule.
-/
theorem definition_order_is_of_no_account :
    (∀ (name : String) (tracing otherTracing : Bool) (tasks others : List (Level × Task)),
      (definitions tasks).Perm (definitions others) →
      ((definitions tasks).map Prod.fst).Nodup →
      ∀ (rule : String) (parser other : Parser),
        (rule, parser) ∈ ((start name tracing).work tasks).2.kept →
        (rule, other) ∈ ((start name otherTracing).work others).2.kept →
        ∀ (cursor : Cursor) (answer otherAnswer : Except Fault Outcome),
          ((start name tracing).work tasks).2.Answers parser cursor answer →
          ((start name otherTracing).work others).2.Answers other cursor otherAnswer →
          answer ≠ .error .unbounded ∨ otherAnswer ≠ .error .unbounded →
          otherAnswer = answer) ∧
      ∀ (name : String) (tracing : Bool) (tasks : List (Level × Task)),
        let workshop := ((start name tracing).work tasks).2
        (∀ rule, workshop.set.contains rule = true ↔
            ∃ draft, (rule, draft) ∈ definitions tasks ∧ draft.fault? = none) ∧
          (∀ (more : List (Level × Task)) (rule : String) (parser : Parser),
            (rule, parser) ∈ workshop.kept →
            ∀ (cursor : Cursor) (answer otherAnswer : Except Fault Outcome),
              workshop.Answers parser cursor answer →
              (∀ fault, LacksRule fault → answer ≠ .error fault) →
              (workshop.work more).2.Answers parser cursor otherAnswer → otherAnswer = answer) ∧
            ∀ (level : Level) (rule : String) (draft : Draft), workshop.set.contains rule = true →
              (workshop.perform level (Task.define rule draft).step).2.set = workshop.set ∧
                (workshop.perform level (Task.define rule draft).step).2.kept = workshop.kept ∧
                (draft.fault? = none →
                  (workshop.perform level (Task.define rule draft).step).1 =
                    .error (.ruleRedefined rule workshop.set.name)) := by
  refine ⟨?_, fun name tracing tasks => ⟨contains_start_work_iff name tracing tasks, ?_, ?_⟩⟩
  · intro name tracing otherTracing tasks others perm nodup rule parser other mem otherMem cursor
      answer otherAnswer answers otherAnswers ended
    rcases ended with ended | ended
    · exact answer_eq_of_perm name tracing otherTracing perm nodup mem otherMem answers ended
        otherAnswers
    · exact (answer_eq_of_perm name otherTracing tracing perm.symm
        ((perm.map Prod.fst).nodup nodup) otherMem mem otherAnswers ended answers).symm
  · intro more rule parser mem cursor answer otherAnswer answers ended otherAnswers
    have sound : ((start name tracing).work tasks).2.IsSound False :=
      (isSound_start False name tracing).work False.elim
    exact sound.answer_eq_of_work False.elim mem answers ended otherAnswers
  · intro level rule draft known
    exact perform_define_of_contains level known draft

/-- Lists in brackets, and a reference to their items. -/
def listTasks : List (Level × Task) :=
  [(.debug, .reference "item"),
    (.debug,
      .define "list" (.sequence [.literal "[", .optional (.reference "item"), .literal "]"])),
    (.debug, .define "item" (.anyOf [.reference "list", .literal "1"]))]

/-- Lists in brackets, and a reference to their items, the other way round. -/
def reversedListTasks : List (Level × Task) := listTasks.reverse

/-- Lists in brackets and their items, defined in two orders; then a list is defined again. -/
theorem definition_order_of_lists :
    let first := ((start "lists" false).work listTasks).2
    let second := ((start "lists" true).work reversedListTasks).2
    let third := (first.work [(.info, .define "list" (.literal "2"))]).2
    let cursor := Cursor.start ⟨['[', '1', ']'], 3, rfl⟩
    let answer := ((Parser.rule "item").run (first.set.environment .info) cursor .fresh).1
    ((Parser.traced "lists.item" (.rule "item")).run (second.set.environment .info) cursor
        .fresh).1 = answer ∧
      ((Parser.rule "item").run (third.set.environment .info) cursor .fresh).1 = answer ∧
      third.set = first.set := by
  intro first second third cursor answer
  have matched : ∃ outcome, answer = .ok outcome := ⟨_, rfl⟩
  have ended (fault : Fault) : answer ≠ .error fault := by
    obtain ⟨outcome, matched⟩ := matched
    rw [matched]
    simp
  have kept : ("item", .rule "item") ∈ first.kept := RuleSet.mem_of_lookup rfl
  have otherKept : ("item", .traced "lists.item" (.rule "item")) ∈ second.kept :=
    RuleSet.mem_of_lookup rfl
  have answers : first.Answers (.rule "item") cursor answer := ⟨.info, .fresh, rfl⟩
  have perm : (definitions listTasks).Perm (definitions reversedListTasks) :=
    listTasks.reverse_perm.symm.filterMap _
  obtain ⟨anyOrder, further⟩ := definition_order_is_of_no_account
  obtain ⟨-, unchanged, rejected⟩ := further "lists" false listTasks
  refine ⟨?_, ?_, ?_⟩
  · exact anyOrder "lists" false true _ _ perm (by decide) "item" _ _ kept otherKept cursor answer _
      answers ⟨.info, .fresh, rfl⟩ (.inl (ended _))
  · exact unchanged [(.info, .define "list" (.literal "2"))] "item" _ kept cursor answer _ answers
      (fun fault _ => ended fault) ⟨.info, .fresh, rfl⟩
  · exact (rejected .info "list" (.literal "2") (by decide +kernel)).1

end Workshop

end Descent
