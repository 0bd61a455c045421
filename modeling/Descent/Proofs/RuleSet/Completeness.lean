import Descent.Proofs.RuleSet.Task

/-!
# Complete grammars

The session keeps the names of all references that were taken, and a grammar is complete when each
of them is defined.  If all references are taken when a parser is built, then the rules of a complete
grammar refer to each other only, and its references never lack a rule, whatever is added later.  A
grammar that is not complete is reported with the names that are lacking, in order.
-/

namespace Descent

/-! ## Names in order -/

namespace RuleSet

variable {set : RuleSet} {referenced : List String}

/-- Names that are there once are sorted into a strictly ascending order. -/
theorem pairwise_sortNames {names : List String} (nodup : names.Nodup) :
    (sortNames names).Pairwise (· < ·) := by
  have ascending : (sortNames names).Pairwise fun first second => decide (first ≤ second) = true :=
    List.pairwise_mergeSort
      (fun _ _ _ first second => by
        simp only [decide_eq_true_eq] at first second ⊢
        exact String.le_trans first second)
      (fun first second => by
        simp only [Bool.or_eq_true, decide_eq_true_eq]
        exact String.le_total first second)
      names
  have distinct : (sortNames names).Nodup := (List.mergeSort_perm names _).nodup_iff.mpr nodup
  refine ascending.imp₂ (fun first second le differ => ?_) distinct
  exact Std.lt_of_le_of_ne (of_decide_eq_true le) differ

theorem mem_missing {rule : String} :
    rule ∈ set.missing referenced ↔ rule ∈ referenced ∧ set.contains rule = false := by
  rw [missing, sortNames, List.mem_mergeSort, List.mem_filter, Bool.not_eq_true']

theorem pairwise_missing (nodup : referenced.Nodup) :
    (set.missing referenced).Pairwise (· < ·) :=
  pairwise_sortNames (nodup.filter _)

/-- A grammar is complete when no rule is missing. -/
theorem checkComplete_eq_ok_iff :
    set.checkComplete referenced = .ok () ↔
      ∀ rule ∈ referenced, set.contains rule = true := by
  have missing_iff :
      set.missing referenced = [] ↔ ∀ rule ∈ referenced, set.contains rule = true := by
    simp only [List.eq_nil_iff_forall_not_mem, mem_missing, not_and, Bool.not_eq_false]
  rw [← missing_iff, checkComplete]
  split
  · rename_i none_missing
    exact iff_of_true rfl none_missing
  · rename_i some_missing
    rw [some_missing]
    exact iff_of_false (by simp) (List.cons_ne_nil _ _)

/-- A grammar that is not complete is reported with all that is missing. -/
theorem checkComplete_eq_error {fault : Fault}
    (incomplete : set.checkComplete referenced = .error fault) :
    fault = .undefinedRule (.incomplete set.name (set.missing referenced)) := by
  rw [checkComplete] at incomplete
  split at incomplete
  · cases incomplete
  · rename_i some_missing
    rw [some_missing]
    exact (Except.error.inj incomplete).symm

end RuleSet

namespace Workshop

variable {workshop : Workshop} {level : Level} {task : Task} {ran : Except Fault Answer × Workshop}

/-! ## References that are taken -/

/-- With direct rules only, runs take no references. -/
theorem IsSound.referenced_run (sound : workshop.IsSound True) (level : Level) {name : String}
    {parser : Parser} (mem : (name, parser) ∈ workshop.kept) (cursor : Cursor)
    (session : Session) :
    (parser.run (workshop.set.environment level) cursor session).2.referenced =
      session.referenced := by
  obtain ⟨rfl, known⟩ := sound.kept mem
  have none_taken {cell : Nat} {tag : String} {references : List String}
      {product : Except Fault Parser}
      (occurs : Parser.Occurs (workshop.set.environment level)
        (.deferred cell tag references product) (workshop.set.pointer name)) :
      references = [] :=
    (sound.isBuiltNode (fun _ => known) occurs).1 trivial
  refine Parser.run_keeps (fun after => after.referenced = session.referenced)
    (fun _ _ _ kept => kept) (fun _ _ kept => kept) (fun occurs after kept => ?_)
    (fun _ _ kept => kept) cursor rfl
  rw [Session.referenced_attempted, none_taken occurs, ite_self]
  exact kept

/-- A task takes the references of its draft and, if it defines a rule, the one to it. -/
theorem Performed.referenced_eq (performed : Performed level workshop task ran)
    (sound : workshop.IsSound True) :
    ∃ own, ran.2.set.names = workshop.set.names ++ own ∧
      ran.2.session.referenced =
        addNames workshop.session.referenced (task.mentions ++ own) := by
  cases performed with
  | notBuilt built | redefined built =>
      refine ⟨[], (List.append_nil _).symm, ?_⟩
      rw [List.append_nil]
      exact Draft.referenced_construct built
  | @defined name draft parser session built =>
      refine ⟨[name], List.map_append, ?_⟩
      rw [addNames_append]
      change (Session.mention _ name).referenced = addNames (addNames _ draft.mentions) [name]
      rw [Session.referenced_mention, ← Draft.referenced_construct built]
      rfl
  | referenced name =>
      refine ⟨[], (List.append_nil _).symm, ?_⟩
      rw [List.append_nil]
      exact workshop.session.referenced_mention name
  | @ran name source offset parser cursor kept =>
      refine ⟨[], (List.append_nil _).symm, ?_⟩
      exact sound.referenced_run level (RuleSet.mem_of_lookup kept) cursor workshop.session
  | asked _ noMention =>
      rw [noMention]
      exact ⟨[], (List.append_nil _).symm, rfl⟩

/-- Tasks take the references of their drafts and those to the rules that they define. -/
theorem referenced_work {workshop : Workshop} (sound : workshop.IsSound True)
    {tasks : List (Level × Task)} (direct : ∀ entry ∈ tasks, entry.2.IsDirect) :
    ∃ own taken, (workshop.work tasks).2.set.names = workshop.set.names ++ own ∧
      (workshop.work tasks).2.session.referenced =
        addNames workshop.session.referenced taken ∧
      ∀ rule, rule ∈ taken ↔ (∃ entry ∈ tasks, rule ∈ entry.2.mentions) ∨ rule ∈ own := by
  induction tasks generalizing workshop with
  | nil => exact ⟨[], [], (List.append_nil _).symm, rfl, fun _ => by simp⟩
  | cons entry tasks induction =>
      obtain ⟨level, task⟩ := entry
      obtain ⟨here, later⟩ := List.forall_mem_cons.mp direct
      have done := performed level workshop task
      obtain ⟨own, names_eq, referenced_eq⟩ := done.referenced_eq sound
      obtain ⟨owns, taken, namesLater, referencedLater, mem_taken⟩ :=
        induction (sound.performed (fun _ => here) done) later
      refine ⟨own ++ owns, (task.mentions ++ own) ++ taken, ?_, ?_, fun rule => ?_⟩
      · rw [work, namesLater, names_eq, List.append_assoc]
      · rw [work, referencedLater, referenced_eq, ← addNames_append]
      · simp only [List.mem_append, List.mem_cons, or_and_right, exists_or, exists_eq_left,
          mem_taken]
        exact or_or_or_comm

variable {name : String} {tracing : Bool} {tasks : List (Level × Task)}

theorem mem_referenced_start_work (direct : ∀ entry ∈ tasks, entry.2.IsDirect) (rule : String) :
    rule ∈ ((start name tracing).work tasks).2.session.referenced ↔
      (∃ entry ∈ tasks, rule ∈ entry.2.mentions) ∨
        ((start name tracing).work tasks).2.set.contains rule = true := by
  obtain ⟨own, taken, names_eq, referenced_eq, mem_taken⟩ :=
    referenced_work (isSound_start True name tracing) direct
  have names_own : ((start name tracing).work tasks).2.set.names = own := names_eq
  have none_before : (start name tracing).session.referenced = [] := rfl
  rw [referenced_eq, mem_addNames, none_before, or_iff_right List.not_mem_nil, mem_taken,
    RuleSet.contains, names_own, List.contains_iff_mem]

theorem nodup_referenced_start_work (direct : ∀ entry ∈ tasks, entry.2.IsDirect) :
    ((start name tracing).work tasks).2.session.referenced.Nodup := by
  obtain ⟨own, taken, -, referenced_eq, -⟩ :=
    referenced_work (isSound_start True name tracing) direct
  rw [referenced_eq]
  exact nodup_addNames List.nodup_nil taken

/-! ## Complete grammars -/

/--
What occurs in a reference of a complete grammar, whatever rules there are behind those of the
grammar, is one of its nodes or a node of those rules.
-/
theorem IsSound.isBuiltNode_of_occurs (sound : workshop.IsSound True)
    (complete : ∀ rule ∈ workshop.session.referenced, workshop.set.contains rule = true)
    {environment : Environment} (behind : workshop.set.rules <+: environment.rules) {rule : String}
    (known : rule ∈ workshop.session.referenced) {node : Parser}
    (occurs : Parser.Occurs environment node (workshop.set.pointer rule)) :
    IsBuiltNode True workshop.session.referenced node := by
  -- Nodes of references and rules are built from drafts; a reference leads to such a rule again.
  have built {other : Parser}
      (either : Parser.Occurs .empty other (workshop.set.pointer rule) ∨
        ∃ name body, (name, body) ∈ workshop.set.rules ∧ Parser.Occurs .empty other body) :
      IsBuiltNode True workshop.session.referenced other := by
    rcases either with inside | ⟨name, body, mem, inside⟩
    · exact workshop.set.isBuiltNode_of_occurs_pointer (fun _ => known) inside
    · exact sound.rules mem inside
  refine built ?_
  induction occurs using Relation.ReflTransGen.head_induction_on with
  | refl => exact .inl .refl
  | @head part middle isPart _ induction =>
      by_cases reference : ∃ name, middle = .rule name
      · obtain ⟨name, rfl⟩ := reference
        have mentioned : name ∈ workshop.session.referenced := built induction trivial
        obtain ⟨body, found⟩ := RuleSet.exists_lookup_of_contains (complete name mentioned)
        cases isPart with
        | rule foundLater =>
            rw [behind.lookup_eq_some found] at foundLater
            cases foundLater
            exact .inr ⟨name, part, RuleSet.mem_of_lookup found, .refl⟩
      · have isNode : Parser.Part .empty part middle :=
          isPart.of_noReference _ fun name same => reference ⟨name, same⟩
        rcases induction with inside | ⟨name, body, mem, inside⟩
        · exact .inl (inside.head isNode)
        · exact .inr ⟨name, body, mem, inside.head isNode⟩

/-- References of a complete grammar lack no rule, whatever rules there are behind it. -/
theorem IsSound.run_ne_undefinedRule (sound : workshop.IsSound True)
    (complete : ∀ rule ∈ workshop.session.referenced, workshop.set.contains rule = true)
    {environment : Environment} (behind : workshop.set.rules <+: environment.rules) {rule : String}
    (known : rule ∈ workshop.session.referenced) (cursor : Cursor) (session : Session)
    (cause : UndefinedRule) :
    ((workshop.set.pointer rule).run environment cursor session).1 ≠
      .error (.undefinedRule cause) := by
  intro lacks
  have built {node : Parser}
      (occurs : Parser.Occurs environment node (workshop.set.pointer rule)) :
      IsBuiltNode True workshop.session.referenced node :=
    sound.isBuiltNode_of_occurs complete behind known occurs
  cases Parser.raises_of_runWithin lacks with
  | @undefined name occurs absent =>
      have contained := complete name (built occurs trivial)
      have unknown : workshop.set.contains name = false :=
        RuleSet.contains_eq_false_iff.mpr (behind.lookup_eq_none absent)
      rw [contained] at unknown
      cases unknown
  | unbuilt occurs => rcases (built occurs).2 _ rfl with same | same <;> cases same
  | primitive occurs raised => exact (built occurs).2 trivial _ _ raised

/-- The check of a grammar passes when all references that were taken have a rule. -/
theorem perform_checkComplete_eq_done_iff (level : Level) :
    (workshop.perform level Task.checkComplete.step).1 = .ok .done ↔
      ∀ rule ∈ workshop.session.referenced, workshop.set.contains rule = true := by
  rw [← RuleSet.checkComplete_eq_ok_iff]
  simp only [Task.step, perform]
  cases workshop.set.checkComplete workshop.session.referenced with
  | error => exact iff_of_false (by simp [Except.map]) (by simp)
  | ok => exact iff_of_true rfl rfl

theorem perform_checkComplete_eq_error_iff (level : Level) {fault : Fault} :
    (workshop.perform level Task.checkComplete.step).1 = .error fault ↔
      workshop.set.checkComplete workshop.session.referenced = .error fault := by
  simp only [Task.step, perform]
  cases workshop.set.checkComplete workshop.session.referenced with
  | error => exact ⟨fun raised => congrArg _ (Except.error.inj raised),
      fun raised => congrArg _ (Except.error.inj raised)⟩
  | ok => exact iff_of_false (by simp [Except.map]) (by simp)

/--
If all references are taken when parsers are built: the check of a grammar passes when they have
rules, and then they never lack one, whatever is done later.  If the check does not pass, it reports
the rules that were referred to and are not defined, each once and in order.
-/
theorem complete_grammars_stay_complete (name : String) (tracing : Bool)
    {tasks : List (Level × Task)} (direct : ∀ entry ∈ tasks, entry.2.IsDirect) (level : Level) :
    let workshop := ((start name tracing).work tasks).2
    ((workshop.perform level Task.checkComplete.step).1 = .ok .done ↔
        ∀ entry ∈ tasks, ∀ rule ∈ entry.2.mentions, workshop.set.contains rule = true) ∧
      ((workshop.perform level Task.checkComplete.step).1 = .ok .done →
        ∀ (rule : String) (reference : Parser),
          (rule, reference) ∈ workshop.kept ∨
              (∃ entry ∈ tasks, rule ∈ entry.2.mentions) ∧
                reference = workshop.set.pointer rule →
          ∀ (more : List (Level × Task)) (cursor : Cursor) (answer : Except Fault Outcome),
            (workshop.work more).2.Answers reference cursor answer →
            ∀ cause, answer ≠ .error (.undefinedRule cause)) ∧
      ∀ fault, (workshop.perform level Task.checkComplete.step).1 = .error fault →
        ∃ names, fault = .undefinedRule (.incomplete name names) ∧
          fault.message? =
            some (s!"Grammar '{name}' references undefined rules: " ++ ", ".intercalate names) ∧
          names.Pairwise (· < ·) ∧
          ∀ rule, rule ∈ names ↔
            (∃ entry ∈ tasks, rule ∈ entry.2.mentions) ∧ workshop.set.contains rule = false := by
  intro workshop
  have sound : workshop.IsSound True :=
    (isSound_start True name tracing).work fun _ => direct
  refine ⟨?_, fun passed rule reference handedOut more cursor answer answers cause => ?_,
    fun fault raised => ?_⟩
  · rw [perform_checkComplete_eq_done_iff]
    refine ⟨fun complete entry mem rule mentioned => ?_, fun complete rule known => ?_⟩
    · exact complete rule
        ((mem_referenced_start_work direct rule).mpr (.inl ⟨entry, mem, mentioned⟩))
    · rcases (mem_referenced_start_work direct rule).mp known with ⟨entry, mem, mentioned⟩ | known
      · exact complete entry mem rule mentioned
      · exact known
  · have complete := (perform_checkComplete_eq_done_iff level).mp passed
    obtain ⟨rfl, known⟩ : reference = workshop.set.pointer rule ∧
        rule ∈ workshop.session.referenced := by
      rcases handedOut with kept | ⟨mentioned, rfl⟩
      · exact sound.kept kept
      · exact ⟨rfl, (mem_referenced_start_work direct rule).mpr (.inl mentioned)⟩
    obtain ⟨otherLevel, session, rfl⟩ := answers
    obtain ⟨added, set_eq⟩ := workshop.set_work more
    have behind :
        workshop.set.rules <+: ((workshop.work more).2.set.environment otherLevel).rules := by
      rw [set_eq]
      exact List.prefix_append _ added
    exact sound.run_ne_undefinedRule complete behind known cursor session cause
  · have incomplete := (perform_checkComplete_eq_error_iff level).mp raised
    have name_eq : workshop.set.name = name := name_start_work name tracing tasks
    have fault_eq := RuleSet.checkComplete_eq_error incomplete
    rw [name_eq] at fault_eq
    refine ⟨_, fault_eq, by rw [fault_eq]; rfl,
      RuleSet.pairwise_missing (nodup_referenced_start_work direct), fun rule => ?_⟩
    rw [RuleSet.mem_missing, mem_referenced_start_work direct]
    refine and_congr_left fun undefined => or_iff_left ?_
    rw [undefined]
    exact Bool.false_ne_true

/-- Lists in brackets, with a rule for items that comes later. -/
def bracketTasks : List (Level × Task) :=
  [(.info,
      .define "list" (.sequence [.literal "[", .many (.reference "item"), .literal "]"])),
    (.info, .define "item" (.anyOf [.reference "list", .literal "1"]))]

/--
Lists in brackets are complete once there are items, and their references lack no rule even if a
rule is added later that does; before, the check reports items only.
-/
theorem completeness_of_lists :
    let first := ((start "lists" false).work (bracketTasks.take 1)).2
    let second := ((start "lists" false).work bracketTasks).2
    let third := (second.work [(.info, .define "pair" (.reference "missing"))]).2
    (∀ cursor session cause,
        ((Parser.rule "item").run (third.set.environment .info) cursor session).1 ≠
          .error (.undefinedRule cause)) ∧
      ∃ names, (first.perform .info Task.checkComplete.step).1 =
          .error (.undefinedRule (.incomplete "lists" names)) ∧
        names.Pairwise (· < ·) ∧ "item" ∈ names ∧ "list" ∉ names := by
  intro first second third
  have direct : ∀ entry ∈ bracketTasks, entry.2.IsDirect := by
    simp [bracketTasks, Task.IsDirect, Draft.IsDirect, Draft.AreDirect]
  have directFirst : ∀ entry ∈ bracketTasks.take 1, entry.2.IsDirect :=
    fun entry mem => direct entry (List.mem_of_mem_take mem)
  have passed : (second.perform .info Task.checkComplete.step).1 = .ok .done := by
    refine (perform_checkComplete_eq_done_iff .info).mpr ?_
    decide
  have incomplete : ∃ fault, (first.perform .info Task.checkComplete.step).1 = .error fault := by
    cases checked : first.set.checkComplete first.session.referenced with
    | error fault => exact ⟨fault, (perform_checkComplete_eq_error_iff .info).mpr checked⟩
    | ok =>
        have complete := RuleSet.checkComplete_eq_ok_iff.mp checked
        exact absurd (complete "item" (by decide)) (by decide)
  obtain ⟨-, stays, -⟩ := complete_grammars_stay_complete "lists" false direct .info
  obtain ⟨-, -, reports⟩ := complete_grammars_stay_complete "lists" false directFirst .info
  refine ⟨fun cursor session cause => ?_, ?_⟩
  · have kept : ("item", .rule "item") ∈ second.kept := RuleSet.mem_of_lookup rfl
    exact stays passed "item" _ (.inl kept) _ cursor _ ⟨.info, session, rfl⟩ cause
  · obtain ⟨fault, raised⟩ := incomplete
    obtain ⟨names, fault_eq, -, ascending, mem_names⟩ := reports fault raised
    rw [fault_eq] at raised
    refine ⟨names, raised, ascending, (mem_names _).mpr ⟨?_, by decide⟩, fun mem => ?_⟩
    · exact ⟨_, List.mem_cons_self, by decide⟩
    · exact absurd ((mem_names _).mp mem).2 (by decide)

end Workshop

end Descent
