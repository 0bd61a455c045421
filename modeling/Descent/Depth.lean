import Descent.Fault
import Descent.Log

/-!
# Depth limits

A requested depth is cut to what the call stack can hold, and a guard counts the levels that are
open at a time.  A guard checks its limit before it counts a level, so a refused entry leaves it as
it was.
-/

namespace Descent

/-- A depth to be made safe. -/
structure DepthRequest where
  requested : Int
  /-- Frames kept free. -/
  reserve : Int
  /-- Frames that one level takes. -/
  framesPerLevel : Int
  deriving DecidableEq, Repr

namespace DepthRequest

/-- Number of frames that the stack holds. -/
def stackFrames : Int := 1000

/-- A request with the usual reserve. -/
def usual (requested framesPerLevel : Int) : DepthRequest := ⟨requested, 50, framesPerLevel⟩

/-- The greatest depth that fits. -/
def safe (request : DepthRequest) : Int :=
  Int.fdiv (stackFrames - request.reserve) request.framesPerLevel

/-- The requested depth, or the greatest that fits if that is less. -/
def granted (request : DepthRequest) : Int := min request.requested request.safe

/-- The depth granted; a level must take frames. -/
def clamp (request : DepthRequest) : Except Fault Int :=
  if request.framesPerLevel = 0 then .error .zeroDivision else .ok request.granted

/-- The warning that a request causes, if it is cut. -/
def entries (request : DepthRequest) : List Entry :=
  if request.framesPerLevel = 0 then []
  else if request.safe < request.requested then
    [.depthClamped request.requested stackFrames request.safe]
  else []

end DepthRequest

/-- The depth limit used where none is given. -/
def defaultDepth : Int := 64

/-- A count of open levels, with a limit. -/
structure Guard where
  limit : Int
  depth : Int
  deriving DecidableEq, Repr

namespace Guard

/-- The request that a new guard makes of the stack. -/
def request (requested : Int) : DepthRequest := .usual requested 1

/-- A guard with no level open. -/
def start (requested : Int) : Guard := ⟨(request requested).granted, 0⟩

/-- No further level can be opened. -/
def isExceeded (guard : Guard) : Bool := decide (guard.limit ≤ guard.depth)

/-- The fault of a refused entry. -/
def refusal (guard : Guard) : Fault :=
  .depthLimit (.structured (Diagnostic.maxDepthExceeded guard.limit))

/-- Open a level, unless the limit is reached. -/
def enter (guard : Guard) : Except Fault Guard :=
  if guard.isExceeded then .error guard.refusal else .ok { guard with depth := guard.depth + 1 }

/-- Close a level.  Nothing is checked. -/
def leave (guard : Guard) : Guard := { guard with depth := guard.depth - 1 }

/-- Close all levels. -/
def reset (guard : Guard) : Guard := { guard with depth := 0 }

variable {guard inside : Guard}

theorem enter_of_le (full : guard.limit ≤ guard.depth) : guard.enter = .error guard.refusal := by
  rw [enter, isExceeded, decide_eq_true full, if_pos rfl]

theorem enter_of_lt (room : guard.depth < guard.limit) :
    guard.enter = .ok ⟨guard.limit, guard.depth + 1⟩ := by
  rw [enter, isExceeded, decide_eq_false (Int.not_le.mpr room), if_neg Bool.false_ne_true]

/-- A level is opened below the limit only. -/
theorem eq_of_enter (entered : guard.enter = .ok inside) :
    guard.depth < guard.limit ∧ inside = ⟨guard.limit, guard.depth + 1⟩ := by
  by_cases full : guard.limit ≤ guard.depth
  · rw [enter_of_le full] at entered
    contradiction
  · have room := Int.not_le.mp full
    rw [enter_of_lt room] at entered
    exact ⟨room, (Except.ok.inj entered).symm⟩

/-- A level that was opened is closed again. -/
theorem leave_of_enter (entered : guard.enter = .ok inside) : inside.leave = guard := by
  obtain ⟨-, rfl⟩ := eq_of_enter entered
  rw [leave, Int.add_sub_cancel]

/-- One use of a guard. -/
inductive Step where
  | enter
  | leave
  | reset
  /-- Open a level around work that fails, and close it again. -/
  | failingBlock
  deriving DecidableEq, Repr

/-- The guard after a step, and the fault if an entry was refused. -/
def perform (guard : Guard) : Step → Option Fault × Guard
  | .enter =>
      match guard.enter with
      | .ok inside => (none, inside)
      | .error fault => (some fault, guard)
  | .leave => (none, guard.leave)
  | .reset => (none, guard.reset)
  | .failingBlock =>
      match guard.enter with
      | .ok inside => (none, inside.leave)
      | .error fault => (some fault, guard)

end Guard

end Descent
