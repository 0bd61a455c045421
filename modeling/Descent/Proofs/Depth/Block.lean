import Mathlib.Computability.StateTransition
import Descent.Depth

/-!
# Blocks under a guard

Programs that use a guard open and close levels by hand, or open a level for a block and close it at
the block's end, be that end normal or a fault.  A program is run step by step, with a stack of what
is still to be done behind it.  The guard never counts beyond its limit.  If only blocks use it, it
counts the blocks on the stack: every block gives it back as it was, and an entry is refused just
when as many blocks are open as the limit allows.
-/

namespace Descent
namespace Guard

open StateTransition (Reaches)

/-! ## Programs and their runs -/

/-- What is done under a guard. -/
inductive Program where
  | done
  | andThen (first rest : Program)
  /-- Open a level by hand. -/
  | enter
  /-- Close a level by hand. -/
  | leave
  | reset
  | fail (fault : Fault)
  /-- Open a level, run the body, and close the level whatever the body's end. -/
  | block (body : Program)
  /-- Run the body, and then the handler if the body ends with a fault that is handled. -/
  | rescue (handles : Fault → Bool) (body handler : Program)

/-- Levels are opened and closed by blocks only. -/
def Program.usesBlocksOnly : Program → Bool
  | done | fail _ => true
  | enter | leave | reset => false
  | andThen first rest => first.usesBlocksOnly && rest.usesBlocksOnly
  | block body => body.usesBlocksOnly
  | rescue _ body handler => body.usesBlocksOnly && handler.usesBlocksOnly

/-- What is to be done at the end of a program. -/
inductive Frame where
  | andThen (rest : Program)
  /-- Close the block that is open. -/
  | block
  | rescue (handles : Fault → Bool) (handler : Program)

/-- What a run has come to. -/
inductive Control where
  /-- A program begins. -/
  | run (program : Program)
  /-- A program has ended, perhaps with a fault. -/
  | ended (fault? : Option Fault)

/-- A moment of a run. -/
structure State where
  guard : Guard
  control : Control
  /-- What is to be done at the end of the present program, the innermost first. -/
  frames : List Frame

/-- Number of blocks that are open. -/
def openBlocks : List Frame → Nat
  | [] => 0
  | .block :: frames => openBlocks frames + 1
  | .andThen _ :: frames | .rescue _ _ :: frames => openBlocks frames

/-- The state behind the first step of a program. -/
def Program.begun (guard : Guard) (frames : List Frame) : Program → State
  | done => ⟨guard, .ended none, frames⟩
  | andThen first rest => ⟨guard, .run first, .andThen rest :: frames⟩
  | enter =>
      match guard.enter with
      | .ok inside => ⟨inside, .ended none, frames⟩
      | .error fault => ⟨guard, .ended (some fault), frames⟩
  | leave => ⟨guard.leave, .ended none, frames⟩
  | reset => ⟨guard.reset, .ended none, frames⟩
  | fail fault => ⟨guard, .ended (some fault), frames⟩
  | block body =>
      match guard.enter with
      | .ok inside => ⟨inside, .run body, .block :: frames⟩
      | .error fault => ⟨guard, .ended (some fault), frames⟩
  | rescue handles body handler => ⟨guard, .run body, .rescue handles handler :: frames⟩

/-- The state behind the end of what was run inside a frame. -/
def Frame.resumed (guard : Guard) (fault? : Option Fault) (frames : List Frame) : Frame → State
  | andThen rest =>
      match fault? with
      | none => ⟨guard, .run rest, frames⟩
      | some fault => ⟨guard, .ended (some fault), frames⟩
  | block => ⟨guard.leave, .ended fault?, frames⟩
  | rescue handles handler =>
      match fault? with
      | none => ⟨guard, .ended none, frames⟩
      | some fault =>
          if handles fault then ⟨guard, .run handler, frames⟩
          else ⟨guard, .ended (some fault), frames⟩

namespace State

/-- A program begins, and nothing is to be done after it. -/
def start (guard : Guard) (program : Program) : State := ⟨guard, .run program, []⟩

/-- The next moment of a run, unless the run is over. -/
def next : State → Option State
  | ⟨guard, .run program, frames⟩ => some (program.begun guard frames)
  | ⟨guard, .ended fault?, frame :: frames⟩ => some (frame.resumed guard fault? frames)
  | ⟨_, .ended _, []⟩ => none

/-- A level is about to be opened. -/
def IsAtEntry (state : State) : Prop :=
  state.control = .run .enter ∨ ∃ body, state.control = .run (.block body)

/-- The next moment has the fault of a refused entry. -/
def IsRefused (state : State) : Prop :=
  ∃ after, state.next = some after ∧ after.control = .ended (some state.guard.refusal)

end State

variable {guard inside : Guard} {limit : Int} {state after : State}

/-- What the beginning of programs and the end of frames keep is kept by every run. -/
theorem State.keeps_of_reaches (Kept : State → Prop)
    (begun : ∀ guard program frames, Kept ⟨guard, .run program, frames⟩ →
      Kept (program.begun guard frames))
    (resumed : ∀ guard fault? frame frames, Kept ⟨guard, .ended fault?, frame :: frames⟩ →
      Kept (frame.resumed guard fault? frames))
    (kept : Kept state) (reaches : Reaches next state after) : Kept after := by
  induction reaches with
  | refl => exact kept
  | @tail before after _ step induction =>
      obtain ⟨guard, control, frames⟩ := before
      cases control with
      | run program =>
          obtain rfl := Option.some.inj step
          exact begun guard program frames induction
      | ended fault? =>
          cases frames with
          | nil => contradiction
          | cons frame frames =>
              obtain rfl := Option.some.inj step
              exact resumed guard fault? frame frames induction

/-! ## The limit -/

/-- A guard with a limit, not beyond it. -/
structure IsWithin (limit : Int) (guard : Guard) : Prop where
  limit_eq : guard.limit = limit
  depth_le : guard.depth ≤ max 0 limit

namespace IsWithin

theorem enter (within : guard.IsWithin limit) (entered : guard.enter = .ok inside) :
    inside.IsWithin limit := by
  obtain ⟨room, rfl⟩ := eq_of_enter entered
  obtain ⟨rfl, -⟩ := within
  exact ⟨rfl, by dsimp only; omega⟩

theorem leave (within : guard.IsWithin limit) : guard.leave.IsWithin limit := by
  obtain ⟨limit_eq, depth_le⟩ := within
  exact ⟨limit_eq, by dsimp only [Guard.leave]; omega⟩

theorem reset (within : guard.IsWithin limit) : guard.reset.IsWithin limit :=
  ⟨within.limit_eq, Int.le_max_left 0 limit⟩

theorem begun (within : guard.IsWithin limit) (frames : List Frame) (program : Program) :
    (program.begun guard frames).guard.IsWithin limit := by
  cases program with
  | done | andThen | fail | rescue => exact within
  | leave => exact within.leave
  | reset => exact within.reset
  | enter | block =>
      rw [Program.begun]
      split
      · rename_i inside entered
        exact within.enter entered
      · exact within

theorem resumed (within : guard.IsWithin limit) (fault? : Option Fault) (frames : List Frame)
    (frame : Frame) : (frame.resumed guard fault? frames).guard.IsWithin limit := by
  cases frame with
  | block => exact within.leave
  | andThen rest => cases fault? <;> exact within
  | rescue handles handler =>
      cases fault? with
      | none => exact within
      | some fault =>
          rw [Frame.resumed]
          split <;> exact within

/-- No run takes a guard beyond its limit. -/
theorem of_reaches (within : state.guard.IsWithin limit)
    (reaches : Reaches State.next state after) : after.guard.IsWithin limit := by
  refine State.keeps_of_reaches (fun state => state.guard.IsWithin limit) ?_ ?_ within reaches
  · exact fun guard program frames within => begun within frames program
  · exact fun guard fault? frame frames within => resumed within fault? frames frame

theorem of_fresh (fresh : guard.depth = 0) : guard.IsWithin guard.limit :=
  ⟨rfl, fresh ▸ Int.le_max_left 0 guard.limit⟩

end IsWithin

/-! ## Entries -/

namespace State

theorem next_enter (entered : guard.enter = .ok inside) (frames : List Frame) :
    next ⟨guard, .run .enter, frames⟩ = some ⟨inside, .ended none, frames⟩ := by
  rw [next, Program.begun, entered]

theorem next_enter_of_refused {fault : Fault} (refused : guard.enter = .error fault)
    (frames : List Frame) :
    next ⟨guard, .run .enter, frames⟩ = some ⟨guard, .ended (some fault), frames⟩ := by
  rw [next, Program.begun, refused]

theorem next_block (entered : guard.enter = .ok inside) (body : Program) (frames : List Frame) :
    next ⟨guard, .run (.block body), frames⟩ = some ⟨inside, .run body, .block :: frames⟩ := by
  rw [next, Program.begun, entered]

theorem next_block_of_refused {fault : Fault} (refused : guard.enter = .error fault)
    (body : Program) (frames : List Frame) :
    next ⟨guard, .run (.block body), frames⟩ = some ⟨guard, .ended (some fault), frames⟩ := by
  rw [next, Program.begun, refused]

/-- A full guard refuses an entry, and stays as it is. -/
theorem next_of_full (entry : state.IsAtEntry) (full : state.guard.limit ≤ state.guard.depth) :
    state.next = some ⟨state.guard, .ended (some state.guard.refusal), state.frames⟩ := by
  obtain ⟨guard, control, frames⟩ := state
  obtain rfl | ⟨body, rfl⟩ := entry
  · exact next_enter_of_refused (enter_of_le full) frames
  · exact next_block_of_refused (enter_of_le full) body frames

/-- An entry is refused by a full guard only. -/
theorem isRefused_iff (entry : state.IsAtEntry) :
    state.IsRefused ↔ state.guard.limit ≤ state.guard.depth := by
  constructor
  · rintro ⟨after, step, refused⟩
    rw [← Int.not_lt]
    intro room
    obtain ⟨guard, control, frames⟩ := state
    obtain rfl | ⟨body, rfl⟩ := entry
    · rw [next_enter (enter_of_lt room)] at step
      obtain rfl := Option.some.inj step
      cases refused
    · rw [next_block (enter_of_lt room)] at step
      obtain rfl := Option.some.inj step
      cases refused
  · exact fun full => ⟨_, next_of_full entry full, rfl⟩

end State

/-! ## Counting blocks -/

/-- What begins uses blocks only. -/
def Control.usesBlocksOnly : Control → Bool
  | run program => program.usesBlocksOnly
  | ended _ => true

/-- What is to be done uses blocks only. -/
def Frame.usesBlocksOnly : Frame → Bool
  | andThen rest => rest.usesBlocksOnly
  | block => true
  | rescue _ handler => handler.usesBlocksOnly

/-- The guard counts the open blocks, and nothing but blocks will use it. -/
structure CountsBlocks (limit : Int) (state : State) : Prop where
  guard_eq : state.guard = ⟨limit, openBlocks state.frames⟩
  control : state.control.usesBlocksOnly = true
  frames : state.frames.all Frame.usesBlocksOnly = true

namespace CountsBlocks

theorem begun {frames : List Frame} {program : Program}
    (counts : CountsBlocks limit ⟨guard, .run program, frames⟩) :
    CountsBlocks limit (program.begun guard frames) := by
  obtain ⟨guard_eq, blocksOnly, all⟩ := counts
  obtain rfl : guard = ⟨limit, openBlocks frames⟩ := guard_eq
  cases program with
  | enter | leave | reset => contradiction
  | done | fail => exact ⟨rfl, rfl, all⟩
  | andThen first rest =>
      obtain ⟨first_only, rest_only⟩ := Bool.and_eq_true_iff.mp blocksOnly
      exact ⟨rfl, first_only, List.all_cons.trans (Bool.and_eq_true_iff.mpr ⟨rest_only, all⟩)⟩
  | rescue handles body handler =>
      obtain ⟨body_only, handler_only⟩ := Bool.and_eq_true_iff.mp blocksOnly
      exact ⟨rfl, body_only, List.all_cons.trans (Bool.and_eq_true_iff.mpr ⟨handler_only, all⟩)⟩
  | block body =>
      rw [Program.begun]
      split
      · rename_i inside entered
        obtain ⟨-, rfl⟩ := eq_of_enter entered
        exact ⟨rfl, blocksOnly, all⟩
      · exact ⟨rfl, rfl, all⟩

theorem resumed {fault? : Option Fault} {frame : Frame} {frames : List Frame}
    (counts : CountsBlocks limit ⟨guard, .ended fault?, frame :: frames⟩) :
    CountsBlocks limit (frame.resumed guard fault? frames) := by
  obtain ⟨guard_eq, -, all⟩ := counts
  obtain rfl : guard = ⟨limit, openBlocks (frame :: frames)⟩ := guard_eq
  obtain ⟨frame_only, rest_only⟩ := Bool.and_eq_true_iff.mp (List.all_cons.symm.trans all)
  cases frame with
  | block =>
      refine ⟨?_, rfl, rest_only⟩
      simp [Frame.resumed, Guard.leave, openBlocks]
  | andThen rest =>
      cases fault? with
      | none => exact ⟨rfl, frame_only, rest_only⟩
      | some fault => exact ⟨rfl, rfl, rest_only⟩
  | rescue handles handler =>
      cases fault? with
      | none => exact ⟨rfl, rfl, rest_only⟩
      | some fault =>
          rw [Frame.resumed]
          split
          · exact ⟨rfl, frame_only, rest_only⟩
          · exact ⟨rfl, rfl, rest_only⟩

/-- Blocks stay counted in a run. -/
theorem of_reaches (counts : CountsBlocks limit state)
    (reaches : Reaches State.next state after) : CountsBlocks limit after := by
  refine State.keeps_of_reaches (CountsBlocks limit) ?_ ?_ counts reaches
  · exact fun guard program frames counts => counts.begun
  · exact fun guard fault? frame frames counts => counts.resumed

theorem start (fresh : guard.depth = 0) {program : Program}
    (blocksOnly : program.usesBlocksOnly = true) :
    CountsBlocks guard.limit (.start guard program) := by
  obtain ⟨limit, depth⟩ := guard
  obtain rfl : depth = 0 := fresh
  exact ⟨rfl, blocksOnly, rfl⟩

end CountsBlocks

/-! ## Ends -/

/-- Every program ends, and gives the guard back as it was if only blocks use it. -/
theorem exists_reaches_ended (program : Program) (guard : Guard) (frames : List Frame) :
    ∃ fault? after,
      Reaches State.next ⟨guard, .run program, frames⟩ ⟨after, .ended fault?, frames⟩ ∧
        (program.usesBlocksOnly = true → after = guard) := by
  induction program generalizing guard frames with
  | done => exact ⟨none, guard, .single rfl, fun _ => rfl⟩
  | fail fault => exact ⟨some fault, guard, .single rfl, fun _ => rfl⟩
  | leave => exact ⟨none, guard.leave, .single rfl, nofun⟩
  | reset => exact ⟨none, guard.reset, .single rfl, nofun⟩
  | enter =>
      cases entered : guard.enter with
      | ok inside => exact ⟨none, inside, .single (State.next_enter entered frames), nofun⟩
      | error fault =>
          exact ⟨some fault, guard, .single (State.next_enter_of_refused entered frames), nofun⟩
  | andThen first rest first_ends rest_ends =>
      obtain ⟨fault?, middle, first_reaches, first_keeps⟩ :=
        first_ends guard (.andThen rest :: frames)
      cases fault? with
      | some fault =>
          refine ⟨some fault, middle, .head rfl (first_reaches.tail rfl), fun blocksOnly => ?_⟩
          exact first_keeps (Bool.and_eq_true_iff.mp blocksOnly).1
      | none =>
          obtain ⟨fault?, after, rest_reaches, rest_keeps⟩ := rest_ends middle frames
          refine ⟨fault?, after, .head rfl (first_reaches.trans (.head rfl rest_reaches)),
            fun blocksOnly => ?_⟩
          obtain ⟨first_only, rest_only⟩ := Bool.and_eq_true_iff.mp blocksOnly
          rw [rest_keeps rest_only, first_keeps first_only]
  | block body body_ends =>
      cases entered : guard.enter with
      | error fault =>
          have refused := State.next_block_of_refused entered body frames
          exact ⟨some fault, guard, .single refused, fun _ => rfl⟩
      | ok inside =>
          obtain ⟨fault?, after, body_reaches, body_keeps⟩ := body_ends inside (.block :: frames)
          have opened := State.next_block entered body frames
          refine ⟨fault?, after.leave, .head opened (body_reaches.tail rfl), fun blocksOnly => ?_⟩
          rw [body_keeps blocksOnly, leave_of_enter entered]
  | rescue handles body handler body_ends handler_ends =>
      obtain ⟨fault?, middle, body_reaches, body_keeps⟩ :=
        body_ends guard (.rescue handles handler :: frames)
      cases fault? with
      | none =>
          refine ⟨none, middle, .head rfl (body_reaches.tail rfl), fun blocksOnly => ?_⟩
          exact body_keeps (Bool.and_eq_true_iff.mp blocksOnly).1
      | some fault =>
          by_cases handled : handles fault = true
          · obtain ⟨fault?, after, handler_reaches, handler_keeps⟩ := handler_ends middle frames
            refine ⟨fault?, after, .head rfl (body_reaches.trans (.head ?_ handler_reaches)),
              fun blocksOnly => ?_⟩
            · simp [State.next, Frame.resumed, handled]
            · obtain ⟨body_only, handler_only⟩ := Bool.and_eq_true_iff.mp blocksOnly
              rw [handler_keeps handler_only, body_keeps body_only]
          · refine ⟨some fault, middle, .head rfl (body_reaches.tail ?_), fun blocksOnly => ?_⟩
            · simp [State.next, Frame.resumed, handled]
            · exact body_keeps (Bool.and_eq_true_iff.mp blocksOnly).1

/-! ## Steps -/

/-- A step as a program; a refusal is put aside, and so is the fault of the work in a block. -/
def Step.toProgram (fault : Fault) : Step → Program
  | enter => .rescue (fun _ => true) .enter .done
  | leave => .leave
  | reset => .reset
  | failingBlock => .rescue (fun _ => true) (.block (.fail fault)) .done

/-- Steps one after the other. -/
def Program.ofSteps (fault : Fault) (steps : List Step) : Program :=
  steps.foldr (fun step rest => .andThen (step.toProgram fault) rest) .done

/-- The guard after some steps. -/
def performAll (guard : Guard) (steps : List Step) : Guard :=
  steps.foldl (fun guard step => (guard.perform step).2) guard

theorem reaches_perform (fault : Fault) (guard : Guard) (step : Step) (frames : List Frame) :
    Reaches State.next ⟨guard, .run (step.toProgram fault), frames⟩
      ⟨(guard.perform step).2, .ended none, frames⟩ := by
  cases step with
  | leave | reset => exact .single rfl
  | enter =>
      rw [perform]
      cases entered : guard.enter with
      | ok inside => exact .head rfl (.head (State.next_enter entered _) (.single rfl))
      | error refusal =>
          have refused := State.next_enter_of_refused entered
          exact .head rfl (.head (refused _) (.head rfl (.single rfl)))
  | failingBlock =>
      rw [perform]
      cases entered : guard.enter with
      | ok inside =>
          have opened := State.next_block entered (.fail fault)
          exact .head rfl (.head (opened _) (.head rfl (.head rfl (.head rfl (.single rfl)))))
      | error refusal =>
          have refused := State.next_block_of_refused entered (.fail fault)
          exact .head rfl (.head (refused _) (.head rfl (.single rfl)))

/-- What steps do is what their program does. -/
theorem reaches_performAll (fault : Fault) (guard : Guard) (steps : List Step)
    (frames : List Frame) :
    Reaches State.next ⟨guard, .run (.ofSteps fault steps), frames⟩
      ⟨guard.performAll steps, .ended none, frames⟩ := by
  induction steps generalizing guard with
  | nil => exact .single rfl
  | cons step steps induction =>
      have first := reaches_perform fault guard step (.andThen (.ofSteps fault steps) :: frames)
      exact .head rfl (first.trans (.head rfl (induction (guard.perform step).2)))

/-- A step that is refused leaves the guard as it is. -/
theorem perform_of_refused {step : Step} {fault : Fault}
    (refused : (guard.perform step).1 = some fault) : (guard.perform step).2 = guard := by
  cases step with
  | leave | reset => contradiction
  | enter | failingBlock =>
      rw [perform] at refused ⊢
      cases entered : guard.enter with
      | ok inside =>
          rw [entered] at refused
          contradiction
      | error fault => rfl

/--
The depth never exceeds the limit, whatever is done with a fresh guard step by step or by a program,
and a refused entry leaves it unchanged.  If a program uses blocks only, the depth is the number of
open blocks, which never exceeds the limit; each block ends with the guard as it was before, and its
entry is refused just when as many blocks as the limit allows are open.
-/
theorem depth_never_leaks (fresh : guard.depth = 0) :
    (∀ steps : List Step,
      (guard.performAll steps).depth ≤ max 0 guard.limit ∧
        ∀ step fault, ((guard.performAll steps).perform step).1 = some fault →
          ((guard.performAll steps).perform step).2 = guard.performAll steps) ∧
      ∀ (program : Program) (state : State), Reaches State.next (.start guard program) state →
        state.guard.depth ≤ max 0 guard.limit ∧
          (state.IsAtEntry → state.IsRefused →
            ∀ after, state.next = some after → after.guard = state.guard) ∧
          (program.usesBlocksOnly = true →
            state.guard.depth = openBlocks state.frames ∧
              (openBlocks state.frames : Int) ≤ max 0 guard.limit ∧
              ∀ body, state.control = .run (.block body) →
                (∃ fault?, Reaches State.next state ⟨state.guard, .ended fault?, state.frames⟩) ∧
                  (state.IsRefused ↔ (openBlocks state.frames : Int) = max 0 guard.limit)) := by
  have fresh_within := IsWithin.of_fresh fresh
  constructor
  · intro steps
    have reaches := reaches_performAll .zeroDivision guard steps []
    have within := fresh_within.of_reaches reaches
    exact ⟨within.depth_le, fun _ _ refused => perform_of_refused refused⟩
  · intro program state reaches
    have within := fresh_within.of_reaches reaches
    refine ⟨within.depth_le, ?_, fun blocksOnly => ?_⟩
    · intro entry refused after step
      have full := (State.isRefused_iff entry).mp refused
      rw [State.next_of_full entry full] at step
      rw [← Option.some.inj step]
    · have counts := (CountsBlocks.start fresh blocksOnly).of_reaches reaches
      have depth_eq : state.guard.depth = openBlocks state.frames :=
        congrArg Guard.depth counts.guard_eq
      have depth_le := within.depth_le
      rw [depth_eq] at depth_le
      refine ⟨depth_eq, depth_le, fun body control_eq => ⟨?_, ?_⟩⟩
      · have body_only := counts.control
        rw [control_eq] at body_only
        obtain ⟨guard, control, frames⟩ := state
        obtain rfl : control = .run (.block body) := control_eq
        obtain ⟨fault?, after, ends, keeps⟩ := exists_reaches_ended (.block body) guard frames
        rw [keeps body_only] at ends
        exact ⟨fault?, ends⟩
      · rw [State.isRefused_iff (.inr ⟨body, control_eq⟩), within.limit_eq, depth_eq]
        omega

/-- The one level of a guard is taken, so that a block inside the open one is refused. -/
theorem block_refused_inside_block :
    let guard := Guard.start 1
    let inner : Program := .rescue (fun _ => true) (.block .done) .done
    let program : Program := .block (.andThen inner (.fail .zeroDivision))
    let state : State :=
      ⟨⟨1, 1⟩, .run (.block .done),
        [.rescue (fun _ => true) .done, .andThen (.fail .zeroDivision), .block]⟩
    guard.depth = 0 ∧ Reaches State.next (.start guard program) state ∧
      program.usesBlocksOnly = true ∧ state.IsAtEntry ∧ state.IsRefused ∧
      (∀ after, state.next = some after → after.guard = ⟨1, 1⟩) ∧
      (∃ fault?, Reaches State.next state ⟨⟨1, 1⟩, .ended fault?, state.frames⟩) ∧
      (guard.performAll [.enter, .failingBlock]).depth ≤ 1 ∧
      ((guard.performAll [.enter]).perform .failingBlock).2 = ⟨1, 1⟩ := by
  intro guard inner program state
  have reaches : Reaches State.next (.start guard program) state :=
    .head rfl (.head rfl (.single rfl))
  have entry : state.IsAtEntry := .inr ⟨.done, rfl⟩
  obtain ⟨steps, programs⟩ := depth_never_leaks (show guard.depth = 0 from rfl)
  obtain ⟨-, unchanged, counted⟩ := programs program state reaches
  obtain ⟨-, -, blocks⟩ := counted rfl
  obtain ⟨ends, refused_iff⟩ := blocks .done rfl
  have refused := refused_iff.mpr rfl
  refine ⟨rfl, reaches, rfl, entry, refused, unchanged entry refused, ends, ?_, ?_⟩
  · exact (steps [.enter, .failingBlock]).1
  · exact (steps [.enter]).2 .failingBlock _ rfl

end Guard
end Descent
