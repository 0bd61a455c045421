import Descent.Depth

/-!
# Walks over expressions

A visitor computes a result for every number and every call of a tree, the arguments of a call from
left to right and each once.  It may record what it meets: on entering a call, after each argument,
on leaving the call, and at a number.  A guard limits how many calls are open at a time; it is
closed again whatever the end of the visit, so that a visitor can be used again.
-/

namespace Descent

/-- What to compute at the nodes of a tree, with a memory of type `σ` and results of type `α`. -/
structure Visitor (σ α : Type) where
  /-- Enter a call, before its arguments are visited. -/
  arrive : String → List Value → σ → Except Fault σ
  /-- Go on after an argument of a call, with the results so far, the latest first. -/
  hear : String → List Value → List α → σ → σ := fun _ _ _ memory => memory
  /-- Leave a call, with the results of its arguments. -/
  leave : String → List Value → List α → σ → Except Fault (α × σ)
  /-- Visit a number. -/
  number : Binary64 → σ → Except Fault (α × σ)

/-- The state of a visitor between two nodes. -/
structure Walk (σ : Type) where
  guard : Guard
  memory : σ

namespace Walk

/-- The request that a visitor makes of the stack: three frames for each level of calls. -/
def depthRequest (requested : Option Int) : DepthRequest :=
  .usual (requested.getD defaultDepth) 3

/-- A visitor's state before any visit. -/
def start {σ : Type} (requested : Option Int) (memory : σ) : Walk σ :=
  ⟨Guard.start (depthRequest requested).granted, memory⟩

/-- What the start of a visitor reports. -/
def entries (requested : Option Int) : List Entry :=
  (depthRequest requested).entries ++ (Guard.request (depthRequest requested).granted).entries

/-- The state after a call was left. -/
def closed {σ : Type} (walk : Walk σ) : Walk σ := { walk with guard := walk.guard.leave }

/-- The state after something was recorded. -/
def record {σ : Type} (walk : Walk σ) (change : σ → σ) : Walk σ :=
  { walk with memory := change walk.memory }

end Walk

namespace Visitor

variable {σ α : Type}

/-- The end of a node's visit: its fault, or its result and the memory it leaves behind. -/
def finish (walk : Walk σ) : Except Fault (α × σ) → Except Fault α × Walk σ
  | .error fault => (.error fault, walk)
  | .ok (result, memory) => (.ok result, { walk with memory := memory })

/-- Visit a number with a given memory. -/
def visitNumber (visitor : Visitor σ α) (value : Binary64) (walk : Walk σ) :
    Except Fault α × Walk σ :=
  finish walk (visitor.number value walk.memory)

mutual

/-- Visit a node. -/
def visit (visitor : Visitor σ α) : Value → Walk σ → Except Fault α × Walk σ
  | .call target arguments, walk =>
      match walk.guard.enter with
      | .error fault => (.error fault, walk)
      | .ok inside =>
          match visitor.arrive target arguments walk.memory with
          | .error fault => (.error fault, Walk.closed ⟨inside, walk.memory⟩)
          | .ok memory =>
              match visitAll visitor (visitor.hear target arguments) [] arguments
                  ⟨inside, memory⟩ with
              | (.error fault, after) => (.error fault, after.closed)
              | (.ok results, after) =>
                  finish after.closed (visitor.leave target arguments results after.memory)
  | .number value, walk => visitNumber visitor value walk
  | .integer value, walk =>
      match Binary64.ofInt? value with
      | none => (.error .integerTooLarge, walk)
      | some number => visitNumber visitor number walk
  | other, walk => (.error (.notExpression other.kindName), walk)

/--
Visit nodes from left to right, after some results, the latest first, and record each new result as
`hear` has it.
-/
def visitAll (visitor : Visitor σ α) (hear : List α → σ → σ) (done : List α) :
    List Value → Walk σ → Except Fault (List α) × Walk σ
  | [], walk => (.ok done.reverse, walk)
  | node :: nodes, walk =>
      match visit visitor node walk with
      | (.error fault, after) => (.error fault, after)
      | (.ok result, after) =>
          visitAll visitor hear (result :: done) nodes (after.record (hear (result :: done)))

end

/-- The results of visits of some trees by one visitor, and its state after them. -/
def visitEach (visitor : Visitor σ α) : List Value → Walk σ → List (Except Fault α) × Walk σ
  | [], walk => ([], walk)
  | tree :: trees, walk =>
      let (result, next) := visitor.visit tree walk
      let (results, last) := visitEach visitor trees next
      (result :: results, last)

/-- The result of a visit with the usual limit. -/
def result (visitor : Visitor Unit α) (tree : Value) : Except Fault α :=
  (visitor.visit tree (Walk.start none ())).1

end Visitor

end Descent
