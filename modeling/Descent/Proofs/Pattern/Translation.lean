import Descent.Proofs.Pattern.Extent

/-!
# Patterns at another offset

A pattern that does not ask for the start of the text looks at the characters that are left and at
nothing else.  Moved by some offset, with the same characters left, it matches as before, and the
match ends at the moved offset.  The offsets that a repetition compares, to see whether a copy took
text, are moved together.
-/

namespace Descent
namespace Pattern

/-- The second continuation answers as the first one does, with all offsets moved. -/
def Moves (shift : Nat) (first second : Continuation) : Prop :=
  ∀ offset rest, second (shift + offset) rest = (first offset rest).map (shift + ·)

/-- What is matched in front of a continuation moves with it. -/
def KeepsMoves (shift : Nat) (body : Continuation → Continuation) : Prop :=
  ∀ first second, Moves shift first second → Moves shift (body first) (body second)

variable {shift : Nat} {first second : Continuation}

/-! ## Runs of characters -/

/-- A position in a run, moved. -/
def movePlace (shift : Nat) (place : Nat × List Char) : Nat × List Char :=
  (shift + place.1, place.2)

theorem runEnds_add (set : CharSet) (least : Nat) (most : Option Nat) (taken : Nat)
    (found : List (Nat × List Char)) (offset : Nat) (rest : List Char) :
    runEnds set least most taken (found.map (movePlace shift)) (shift + offset) rest =
      (runEnds set least most taken found offset rest).map (movePlace shift) := by
  induction rest generalizing taken found offset with
  | nil =>
      simp only [runEnds]
      split <;> rfl
  | cons character rest induction =>
      have extended :
          (if least ≤ taken then
              (shift + offset, character :: rest) :: found.map (movePlace shift)
            else found.map (movePlace shift)) =
            (if least ≤ taken then (offset, character :: rest) :: found else found).map
              (movePlace shift) := by
        split <;> rfl
      simp only [runEnds, extended]
      split
      · rw [Nat.add_assoc]
        exact induction _ _ _
      · rfl

theorem Moves.firstOf (moves : Moves shift first second) (places : List (Nat × List Char)) :
    firstOf second (places.map (movePlace shift)) =
      (firstOf first places).map (shift + ·) := by
  induction places with
  | nil => rfl
  | cons place places induction =>
      obtain ⟨offset, rest⟩ := place
      simp only [List.map_cons, movePlace, Pattern.firstOf, moves offset rest]
      cases first offset rest with
      | none => exact induction
      | some answer => rfl

/-! ## Copies -/

theorem KeepsMoves.further {body : Continuation → Continuation} (keeps : KeepsMoves shift body)
    (moves : Moves shift first second) (greedy : Bool) (count : Nat) :
    Moves shift (further body greedy first count) (further body greedy second count) := by
  induction count with
  | zero => exact moves
  | succ count induction =>
      intro offset rest
      -- Behind a copy, both sides compare the offset with that of its own start.
      have copy := keeps
        (fun newOffset newRest =>
          if newOffset = offset then first newOffset newRest
          else Pattern.further body greedy first count newOffset newRest)
        (fun newOffset newRest =>
          if newOffset = shift + offset then second newOffset newRest
          else Pattern.further body greedy second count newOffset newRest)
        (by
          intro newOffset newRest
          simp only [Nat.add_left_cancel_iff]
          split
          · exact moves newOffset newRest
          · exact induction newOffset newRest) offset rest
      rw [further_succ, further_succ]
      simp only [copy, moves offset rest]
      split <;> simp [Option.map_or]

theorem KeepsMoves.copies {body : Continuation → Continuation} (keeps : KeepsMoves shift body)
    (least : Nat) : KeepsMoves shift (Nat.repeat body least) := by
  intro first second moves
  induction least with
  | zero => exact moves
  | succ least induction => exact keeps _ _ induction

/-! ## Patterns -/

/-- A pattern without an anchor at the start moves with what follows it. -/
theorem keepsMoves_matchThen {pattern : Pattern} (free : pattern.isAnchorFree = true) :
    KeepsMoves shift (matchThen pattern) := by
  intro first second moves
  induction pattern generalizing first second with
  | empty => exact moves
  | one set =>
      intro offset rest
      cases rest with
      | nil => rfl
      | cons character rest =>
          simp only [matchThen]
          split
          · exact moves (offset + 1) rest
          · rfl
  | startOfText => exact absurd free Bool.false_ne_true
  | endOfText =>
      intro offset rest
      simp only [matchThen]
      split
      · exact moves offset rest
      · rfl
  | concat front back keepsFront keepsBack =>
      obtain ⟨freeFront, freeBack⟩ := Bool.and_eq_true_iff.mp free
      exact keepsFront freeFront _ _ (keepsBack freeBack _ _ moves)
  | either left right keepsLeft keepsRight =>
      obtain ⟨freeLeft, freeRight⟩ := Bool.and_eq_true_iff.mp free
      intro offset rest
      simp only [matchThen, keepsLeft freeLeft _ _ moves offset rest]
      cases matchThen left first offset rest with
      | none => exact keepsRight freeRight _ _ moves offset rest
      | some answer => rfl
  | run set least most =>
      intro offset rest
      simp only [matchThen]
      rw [← moves.firstOf, ← runEnds_add, List.map_nil]
  | repeated body least most greedy keeps =>
      refine KeepsMoves.copies (keeps free) least _ _ fun offset rest => ?_
      exact KeepsMoves.further (keeps free) moves greedy _ offset rest

/-- Where a match ends depends on where it starts and on the characters that are left. -/
theorem matchEnd?_add {pattern : Pattern} (free : pattern.isAnchorFree = true)
    (shift offset : Nat) (rest : List Char) :
    pattern.matchEnd? (shift + offset) rest =
      (pattern.matchEnd? offset rest).map (shift + ·) :=
  keepsMoves_matchThen free _ _ (fun _ _ => rfl) offset rest

end Pattern
end Descent
