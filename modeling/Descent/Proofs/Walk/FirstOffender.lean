import Descent.Call.Json
import Descent.Walk.Survey

/-!
# Visits fail at the first offender

A visit gives back the guard that it was started with, whatever its end.  If what a visitor records
has no effect on what it answers, every visit is hence answered as by a new visitor.  Where leaving
a call is never refused, a visit ends with the fault of the first node, from the top down and from
left to right, that is refused on arrival, and with a result if there is none.
-/

namespace Descent

/-- The guard of a new visitor: no call is open, and the limit is what the stack can hold. -/
theorem Walk.guard_start {σ : Type} (requested : Option Int) (memory : σ) :
    (Walk.start requested memory).guard = ⟨min (requested.getD 64) 316, 0⟩ := by
  have levels : (DepthRequest.usual (requested.getD defaultDepth) 3).safe = 316 := rfl
  have frames (depth : Int) : (Guard.request depth).safe = 950 := rfl
  simp only [Walk.start, Walk.depthRequest, Guard.start, DepthRequest.granted, levels, frames]
  simp only [Guard.request, DepthRequest.usual, defaultDepth, Guard.mk.injEq, and_true]
  omega

namespace Visitor

variable {σ α : Type}

/-! ## The guard after a visit -/

theorem guard_finish (walk : Walk σ) (answer : Except Fault (α × σ)) :
    (finish walk answer).2.guard = walk.guard := by
  cases answer <;> rfl

mutual

/-- A visit opens and closes levels in turn. -/
theorem guard_visit (visitor : Visitor σ α) : ∀ (tree : Value) (walk : Walk σ),
    (visitor.visit tree walk).2.guard = walk.guard
  | .call target arguments, walk => by
      rw [visit]
      split
      · rfl
      · rename_i inside entered
        have left := Guard.leave_of_enter entered
        split
        · exact left
        · rename_i memory _
          have kept := guard_visitAll visitor (visitor.hear target arguments) [] arguments
            ⟨inside, memory⟩
          have closed (after : Walk σ) (stays : after.guard = inside) :
              after.closed.guard = walk.guard := by
            subst stays
            exact left
          split <;> rename_i visited <;> rw [visited] at kept
          · exact closed _ kept
          · rw [guard_finish]
            exact closed _ kept
  | .number value, walk => guard_finish walk _
  | .integer value, walk => by
      rw [visit]
      split
      · rfl
      · exact guard_finish walk _
  | .null, _ | .truth _, _ | .text _, _ | .tuple _, _ | .list _, _ | .record _ _, _ => rfl

theorem guard_visitAll (visitor : Visitor σ α) (hear : List α → σ → σ) :
    ∀ (done : List α) (trees : List Value) (walk : Walk σ),
      (visitor.visitAll hear done trees walk).2.guard = walk.guard
  | _, [], _ => rfl
  | done, tree :: trees, walk => by
      have kept := guard_visit visitor tree walk
      rw [visitAll]
      split <;> rename_i visited <;> rw [visited] at kept
      · exact kept
      · exact (guard_visitAll visitor hear _ trees _).trans kept

end

theorem guard_visitEach (visitor : Visitor σ α) (trees : List Value) (walk : Walk σ) :
    (visitor.visitEach trees walk).2.guard = walk.guard := by
  induction trees generalizing walk with
  | nil => rfl
  | cons tree trees induction => exact (induction _).trans (guard_visit visitor tree walk)

/-! ## Answers that do not depend on the memory -/

/-- What a visitor computes at the nodes of a tree, without what it records. -/
structure Computation (α : Type) where
  /-- Enter a call. -/
  arrive : String → List Value → Except Fault Unit
  /-- The result of a call with the results of its arguments. -/
  leave : String → List Value → List α → Except Fault α
  /-- The result of a number. -/
  number : Binary64 → Except Fault α

/-- The computation of results, none of which is refused. -/
def Computation.pure (call : String → List Value → List α → α) (number : Binary64 → α) :
    Computation α where
  arrive _ _ := .ok ()
  leave target arguments results := .ok (call target arguments results)
  number value := .ok (number value)

namespace Computation

mutual

/-- The answer to a tree under a guard. -/
def answer (computation : Computation α) (guard : Guard) : Value → Except Fault α
  | .call target arguments => do
      let inside ← guard.enter
      computation.arrive target arguments
      let results ← answers computation inside arguments
      computation.leave target arguments results
  | .number value => computation.number value
  | .integer value =>
      match Binary64.ofInt? value with
      | none => .error .integerTooLarge
      | some number => computation.number number
  | other => .error (.notExpression other.kindName)

/-- The answers to some trees, up to the first fault. -/
def answers (computation : Computation α) (guard : Guard) : List Value → Except Fault (List α)
  | [] => .ok []
  | tree :: trees => do
      let result ← answer computation guard tree
      let results ← answers computation guard trees
      .ok (result :: results)

end

end Computation

/-- A visitor computes the same whatever it has recorded. -/
structure Computes (visitor : Visitor σ α) (computation : Computation α) : Prop where
  arrive (target : String) (arguments : List Value) (memory : σ) :
    (visitor.arrive target arguments memory).map (fun _ => ()) = computation.arrive target arguments
  leave (target : String) (arguments : List Value) (results : List α) (memory : σ) :
    (visitor.leave target arguments results memory).map Prod.fst =
      computation.leave target arguments results
  number (value : Binary64) (memory : σ) :
    (visitor.number value memory).map Prod.fst = computation.number value

variable {visitor : Visitor σ α} {computation : Computation α}

theorem fst_finish (walk : Walk σ) (answer : Except Fault (α × σ)) :
    (finish walk answer).1 = answer.map Prod.fst := by
  cases answer <;> rfl

theorem Computes.fst_visitNumber (computes : visitor.Computes computation) (value : Binary64)
    (walk : Walk σ) : (visitor.visitNumber value walk).1 = computation.number value := by
  rw [visitNumber, fst_finish, computes.number]

mutual

/-- The answer of a visit is told by the guard and the tree. -/
theorem Computes.fst_visit (computes : visitor.Computes computation) :
    ∀ (tree : Value) (walk : Walk σ),
      (visitor.visit tree walk).1 = computation.answer walk.guard tree
  | .call target arguments, walk => by
      have arrived := computes.arrive target arguments walk.memory
      rw [visit, Computation.answer]
      cases walk.guard.enter with
      | error fault => rfl
      | ok inside =>
          rw [← arrived]
          cases visitor.arrive target arguments walk.memory with
          | error fault => rfl
          | ok memory =>
              have visited := computes.fst_visitAll (visitor.hear target arguments) [] arguments
                ⟨inside, memory⟩
              rcases ran : visitor.visitAll (visitor.hear target arguments) [] arguments
                ⟨inside, memory⟩ with ⟨results, after⟩
              rw [ran] at visited
              cases answered : computation.answers inside arguments with
              | error fault =>
                  rw [answered] at visited
                  obtain rfl : results = .error fault := visited
                  simp only [ran, answered, Except.map, bind, Except.bind]
              | ok values =>
                  rw [answered] at visited
                  obtain rfl : results = .ok values := visited
                  simp only [ran, answered, Except.map, bind, Except.bind]
                  rw [fst_finish, computes.leave]
  | .number value, walk => computes.fst_visitNumber value walk
  | .integer value, walk => by
      rw [visit, Computation.answer]
      cases Binary64.ofInt? value with
      | none => rfl
      | some number => exact computes.fst_visitNumber number walk
  | .null, _ | .truth _, _ | .text _, _ | .tuple _, _ | .list _, _ | .record _ _, _ => rfl

theorem Computes.fst_visitAll (computes : visitor.Computes computation)
    (hear : List α → σ → σ) :
    ∀ (done : List α) (trees : List Value) (walk : Walk σ),
      (visitor.visitAll hear done trees walk).1 =
        (computation.answers walk.guard trees).map (done.reverse ++ ·)
  | done, [], _ => by
      rw [visitAll, Computation.answers, Except.map, List.append_nil]
  | done, tree :: trees, walk => by
      have visited := computes.fst_visit tree walk
      have kept := guard_visit visitor tree walk
      rw [visitAll, Computation.answers, ← visited]
      rcases ran : visitor.visit tree walk with ⟨answer, after⟩
      rw [ran] at kept
      cases answer with
      | error fault => rfl
      | ok result =>
          have others := computes.fst_visitAll hear (result :: done) trees
            (after.record (hear (result :: done)))
          have same : (after.record (hear (result :: done))).guard = walk.guard := kept
          rw [same] at others
          refine others.trans ?_
          cases computation.answers walk.guard trees with
          | error fault => rfl
          | ok results => simp [Except.map, bind, Except.bind]

end

/-- Every visit is answered as by a visitor that has visited nothing. -/
theorem Computes.fst_visitEach (computes : visitor.Computes computation) (trees : List Value)
    (walk : Walk σ) :
    (visitor.visitEach trees walk).1 = trees.map (computation.answer walk.guard) := by
  induction trees generalizing walk with
  | nil => rfl
  | cons tree trees induction =>
      have first := computes.fst_visit tree walk
      have others := induction (visitor.visit tree walk).2
      rw [guard_visit] at others
      simp only [visitEach, List.map_cons, first, others]

/-! ## The first offender -/

/-- The fault of an answer that has one. -/
def fault? {β : Type} : Except Fault β → Option Fault
  | .error fault => some fault
  | .ok _ => none

mutual

/-- The nodes of a tree from the top down and from left to right, with the calls around each. -/
def preorder (depth : Int) : Value → List (Int × Value)
  | .call target arguments =>
      (depth, .call target arguments) :: preorderAll (depth + 1) arguments
  | other => [(depth, other)]

/-- The nodes of some trees, one tree after another. -/
def preorderAll (depth : Int) : List Value → List (Int × Value)
  | [] => []
  | tree :: trees => preorder depth tree ++ preorderAll depth trees

end

namespace Computation

/-- The fault of a node with some calls around it, on arrival: too deep a call comes first. -/
def offence (computation : Computation α) (limit : Int) : Int × Value → Option Fault
  | (depth, .call target arguments) =>
      if limit ≤ depth then some (Guard.refusal ⟨limit, depth⟩)
      else fault? (computation.arrive target arguments)
  | (_, .number value) => fault? (computation.number value)
  | (_, .integer value) =>
      match Binary64.ofInt? value with
      | none => some .integerTooLarge
      | some number => fault? (computation.number number)
  | (_, other) => some (.notExpression other.kindName)

/-- Leaving a call is never refused. -/
def IsTotal (computation : Computation α) : Prop :=
  ∀ target arguments results, ∃ result, computation.leave target arguments results = .ok result

mutual

theorem fault?_answer (total : computation.IsTotal) : ∀ (tree : Value) (guard : Guard),
    fault? (computation.answer guard tree) =
      (preorder guard.depth tree).findSome? (computation.offence guard.limit)
  | .call target arguments, guard => by
      rw [answer, preorder, List.findSome?_cons, offence]
      by_cases full : guard.limit ≤ guard.depth
      · rw [if_pos full, Guard.enter_of_le full]
        rfl
      · rw [if_neg full, Guard.enter_of_lt (Int.not_le.mp full)]
        cases computation.arrive target arguments with
        | error fault => rfl
        | ok _ =>
            have inner := fault?_answers total arguments ⟨guard.limit, guard.depth + 1⟩
            refine Eq.trans ?_ inner
            cases answered : computation.answers ⟨guard.limit, guard.depth + 1⟩ arguments with
            | error fault => simp only [answered, bind, Except.bind, fault?]
            | ok results =>
                obtain ⟨result, left⟩ := total target arguments results
                simp only [answered, left, bind, Except.bind, fault?]
  | .number value, guard => by
      simp only [answer, preorder, List.findSome?_singleton, offence]
  | .integer value, guard => by
      simp only [answer, preorder, List.findSome?_singleton, offence]
      cases Binary64.ofInt? value <;> rfl
  | .null, _ | .truth _, _ | .text _, _ | .tuple _, _ | .list _, _ | .record _ _, _ => rfl

theorem fault?_answers (total : computation.IsTotal) : ∀ (trees : List Value) (guard : Guard),
    fault? (computation.answers guard trees) =
      (preorderAll guard.depth trees).findSome? (computation.offence guard.limit)
  | [], _ => rfl
  | tree :: trees, guard => by
      have first := fault?_answer total tree guard
      have others := fault?_answers total trees guard
      rw [answers, preorderAll, List.findSome?_append, ← first, ← others]
      cases computation.answer guard tree with
      | error fault => rfl
      | ok result => cases computation.answers guard trees <;> rfl

end

end Computation

/-! ## The visitors -/

/--
The fault of a node with some calls around it: a call that is too deep, a node that is no
expression, and an integer beyond all numbers; where trees are written, also a target that is no
identifier and a number that is not finite.
-/
def offence (writing : Bool) (limit : Int) : Int × Value → Option Fault
  | (depth, .call target _) =>
      if limit ≤ depth then some (.depthLimit (.structured (Diagnostic.maxDepthExceeded limit)))
      else if writing && !Call.isIdentifier target.toList then
        some (Call.unserializable
          ("call target " ++ quotedText target ++ " is not an identifier"))
      else none
  | (_, .number value) =>
      if writing && !value.isFinite then
        some (Call.unserializable s!"number {value.text} has no literal form")
      else none
  | (_, .integer value) =>
      if (Binary64.ofInt? value).isNone then some .integerTooLarge else none
  | (_, other) => some (.notExpression other.kindName)

theorem plain_computes :
    plain.Computes (.pure (fun target arguments _ => .call target arguments) .number) :=
  ⟨fun _ _ _ => rfl, fun _ _ _ _ => rfl, fun _ _ => rfl⟩

theorem recorder_computes :
    Call.recorder.Computes
      (.pure (fun target _ results => .record ["target", "args"] [.text target, .list results])
        .number) :=
  ⟨fun _ _ _ => rfl, fun _ _ _ _ => rfl, fun _ _ => rfl⟩

/-- What the printer computes. -/
def printing : Computation String where
  arrive target _ := Call.checkTarget target
  leave target _ results := .ok (Call.callText target results)
  number := Call.numberText

theorem printer_computes : Call.printer.Computes printing where
  arrive target _ _ := by
    show (Call.checkTarget target).map _ = Call.checkTarget target
    cases Call.checkTarget target <;> rfl
  leave _ _ _ _ := rfl
  number value _ := by
    show ((Call.numberText value).map _).map Prod.fst = Call.numberText value
    cases Call.numberText value <;> rfl

theorem isTotal_pure (call : String → List Value → List α → α) (number : Binary64 → α) :
    (Computation.pure call number).IsTotal :=
  fun _ _ _ => ⟨_, rfl⟩

theorem isTotal_printing : printing.IsTotal := fun _ _ _ => ⟨_, rfl⟩

theorem offence_pure (call : String → List Value → List α → α) (number : Binary64 → α) (limit : Int)
    (node : Int × Value) :
    (Computation.pure call number).offence limit node = offence false limit node := by
  obtain ⟨depth, node⟩ := node
  cases node with
  | call target arguments => rfl
  | integer value =>
      simp only [Computation.offence, offence]
      cases Binary64.ofInt? value <;> rfl
  | null | truth | number | text | tuple | list | record => rfl

/-- The finite numbers are those that have a literal text. -/
theorem isSome_literalText? (value : Binary64) : value.literalText?.isSome = value.isFinite := by
  cases value with
  | infinite _ | nan => rfl
  | finite negative significand exponent canonical =>
      rw [Binary64.literalText?, Binary64.isFinite]
      split
      · rfl
      · rw [Option.isSome_map, Binary64.isSome_shortest?]
        rfl

theorem fault?_numberText (value : Binary64) :
    fault? (Call.numberText value) =
      if !value.isFinite then some (Call.unserializable s!"number {value.text} has no literal form")
      else none := by
  rw [← isSome_literalText?, Call.numberText]
  cases value.literalText? <;> rfl

theorem isFinite_of_ofInt? {value : Int} {number : Binary64}
    (found : Binary64.ofInt? value = some number) : number.isFinite = true := by
  rw [Binary64.ofInt?] at found
  split at found
  · obtain rfl := Option.some.inj found
    rfl
  · contradiction
  · contradiction

theorem offence_printing (limit : Int) (node : Int × Value) :
    printing.offence limit node = offence true limit node := by
  obtain ⟨depth, node⟩ := node
  cases node with
  | call target arguments =>
      simp only [Computation.offence, offence, printing, Call.checkTarget]
      cases Call.isIdentifier target.toList <;> rfl
  | number value => exact fault?_numberText value
  | integer value =>
      simp only [Computation.offence, offence, printing]
      cases found : Binary64.ofInt? value with
      | none => rfl
      | some number =>
          have written := fault?_numberText number
          rw [isFinite_of_ofInt? found] at written
          exact written
  | null | truth | text | tuple | list | record => rfl

/-! ## All visits of a visitor -/

/--
A visitor can be used again after any visits: no call is open, every answer is that of a new visitor
whatever it remembers, and a visit fails exactly if a node is refused, with the fault of the first.
-/
structure FailsAtFirstOffender (visitor : Visitor σ α)
    (offence : Int → Int × Value → Option Fault) : Prop where
  closed (requested : Option Int) (memory : σ) (trees : List Value) :
    (visitor.visitEach trees (Walk.start requested memory)).2.guard =
      ⟨min (requested.getD 64) 316, 0⟩
  renewed (requested : Option Int) (memory other : σ) (trees : List Value) :
    (visitor.visitEach trees (Walk.start requested memory)).1 =
      trees.map fun tree => (visitor.visit tree (Walk.start requested other)).1
  fails_iff (requested : Option Int) (memory : σ) (tree : Value) :
    (∃ fault, (visitor.visit tree (Walk.start requested memory)).1 = .error fault) ↔
      ∃ node ∈ preorder 0 tree, (offence (min (requested.getD 64) 316) node).isSome
  fault_iff (requested : Option Int) (memory : σ) (tree : Value) (fault : Fault) :
    (visitor.visit tree (Walk.start requested memory)).1 = .error fault ↔
      ∃ earlier node later, preorder 0 tree = earlier ++ node :: later ∧
        offence (min (requested.getD 64) 316) node = some fault ∧
          ∀ other ∈ earlier, offence (min (requested.getD 64) 316) other = none

theorem fault?_eq_some_iff {β : Type} {answer : Except Fault β} {fault : Fault} :
    fault? answer = some fault ↔ answer = .error fault := by
  cases answer <;> simp [fault?]

theorem Computes.failsAtFirstOffender (computes : visitor.Computes computation)
    (total : computation.IsTotal) : visitor.FailsAtFirstOffender computation.offence := by
  have fault_eq (requested : Option Int) (memory : σ) (tree : Value) :
      fault? (visitor.visit tree (Walk.start requested memory)).1 =
        (preorder 0 tree).findSome? (computation.offence (min (requested.getD 64) 316)) := by
    rw [computes.fst_visit, Walk.guard_start, Computation.fault?_answer total]
  refine ⟨?_, ?_, ?_, ?_⟩
  · intro requested memory trees
    rw [guard_visitEach, Walk.guard_start]
  · intro requested memory other trees
    rw [computes.fst_visitEach, Walk.guard_start, ← Walk.guard_start requested other]
    exact List.map_congr_left fun tree _ => (computes.fst_visit tree _).symm
  · intro requested memory tree
    simp only [← fault?_eq_some_iff, fault_eq]
    rw [← Option.isSome_iff_exists, List.findSome?_isSome_iff]
  · intro requested memory tree fault
    rw [← fault?_eq_some_iff, fault_eq, List.findSome?_eq_some_iff]

/--
Visitors that only compute and record, plain ones and the one that makes data fail at the first node
that is too deep, no expression or too large an integer; the printer fails also at the first target
that is no identifier and at the first number that is not finite.
-/
theorem visits_fail_at_first_offender :
    (∀ (σ α : Type) (visitor : Visitor σ α) (call : String → List Value → List α → α)
        (number : Binary64 → α), visitor.Computes (.pure call number) →
          visitor.FailsAtFirstOffender (offence false)) ∧
      plain.FailsAtFirstOffender (offence false) ∧
      Call.recorder.FailsAtFirstOffender (offence false) ∧
      Call.printer.FailsAtFirstOffender (offence true) := by
  have computing (σ α : Type) (visitor : Visitor σ α) (call : String → List Value → List α → α)
      (number : Binary64 → α) (computes : visitor.Computes (.pure call number)) :
      visitor.FailsAtFirstOffender (offence false) := by
    have fails := computes.failsAtFirstOffender (isTotal_pure call number)
    have same : (Computation.pure call number).offence = offence false :=
      funext fun limit => funext fun node => offence_pure call number limit node
    rwa [same] at fails
  refine ⟨computing, computing _ _ _ _ _ plain_computes, computing _ _ _ _ _ recorder_computes, ?_⟩
  have fails := printer_computes.failsAtFirstOffender isTotal_printing
  have same : printing.offence = offence true :=
    funext fun limit => funext fun node => offence_printing limit node
  rwa [same] at fails

/-- Of a call that is too deep and a truth value inside it, the call is reported. -/
theorem collect_fails_at_deep_call :
    let zero := Binary64.zero false
    let tree : Value := .call "f" [.number zero, .call "g" [.truth true], .null]
    collect.Computes (.pure (fun target arguments _ => .call target arguments) .number) ∧
      (collect.visit tree (Walk.start (some 1) ["seen"])).1 =
        .error (.depthLimit (.structured (Diagnostic.maxDepthExceeded 1))) ∧
      (collect.visitEach [.null, tree] (Walk.start (some 1) [])).2.guard = ⟨1, 0⟩ := by
  intro zero tree
  have computes :
      collect.Computes (.pure (fun target arguments _ => .call target arguments) .number) :=
    ⟨fun _ _ _ => rfl, fun _ _ _ _ => rfl, fun _ _ => rfl⟩
  have fails := visits_fail_at_first_offender.1 _ _ collect _ _ computes
  refine ⟨computes, ?_, fails.closed (some 1) [] [.null, tree]⟩
  refine (fails.fault_iff (some 1) ["seen"] tree _).mpr
    ⟨[(0, tree), (1, .number zero)], (1, .call "g" [.truth true]), [(2, .truth true), (1, .null)],
      rfl, rfl, ?_⟩
  exact List.forall_mem_cons.mpr ⟨rfl, List.forall_mem_singleton.mpr rfl⟩

end Visitor
end Descent
