import Descent.Pattern

/-!
# What greedy patterns take

Backtracking never undoes a greedy choice when what follows always succeeds.  In front of such a
continuation a run takes the longest stretch of its set, and an optional part is taken whenever it
can be.
-/

namespace Descent
namespace Pattern

/-- A continuation that succeeds wherever it is tried. -/
def Always (next : Continuation) : Prop := ∀ offset rest, (next offset rest).isSome

theorem always_some : Always fun stop _ => some stop := fun _ _ => rfl

theorem firstOf_cons_of_always {next : Continuation} (always : Always next) (offset : Nat)
    (rest : List Char) (others : List (Nat × List Char)) :
    firstOf next ((offset, rest) :: others) = next offset rest := by
  obtain ⟨answer, answered⟩ := Option.isSome_iff_exists.mp (always offset rest)
  rw [firstOf, answered]

/--
The positions of an unbounded run are tried from the far end of the longest stretch.  Those found
before the run began matter only if the stretch is too short.
-/
theorem firstOf_runEnds (set : CharSet) (least taken : Nat) (found : List (Nat × List Char))
    (offset : Nat) (rest : List Char) {next : Continuation} (always : Always next) :
    firstOf next (runEnds set least none taken found offset rest) =
      if least ≤ taken + (rest.takeWhile set.contains).length then
        next (offset + (rest.takeWhile set.contains).length) (rest.dropWhile set.contains)
      else firstOf next found := by
  induction rest generalizing taken found offset with
  | nil =>
      by_cases enough : least ≤ taken
      · simp [runEnds, enough, firstOf_cons_of_always always]
      · simp [runEnds, enough]
  | cons character rest induction =>
      by_cases member : set.contains character
      · simp only [runEnds, member, ne_eq, reduceCtorEq, not_false_eq_true, and_self, if_true,
          List.takeWhile_cons_of_pos, List.dropWhile_cons_of_pos, List.length_cons]
        rw [induction, Nat.add_right_comm taken, Nat.add_right_comm offset, ← Nat.add_assoc,
          ← Nat.add_assoc]
        split
        · rfl
        · rename_i short
          rw [if_neg (by omega)]
      · by_cases enough : least ≤ taken
        · simp [runEnds, member, enough, firstOf_cons_of_always always]
        · simp [runEnds, member, enough]

/-- A run takes the longest stretch of its set. -/
theorem matchThen_run (set : CharSet) (least offset : Nat) (rest : List Char)
    {next : Continuation} (always : Always next) :
    matchThen (.run set least none) next offset rest =
      if least ≤ (rest.takeWhile set.contains).length then
        next (offset + (rest.takeWhile set.contains).length) (rest.dropWhile set.contains)
      else none := by
  simp only [matchThen]
  rw [firstOf_runEnds set least 0 [] offset rest always, Nat.zero_add, firstOf]

/-- A run of at most one character takes a member of its set if the rest of the match follows it. -/
theorem matchThen_run_one_cons {set : CharSet} {character : Char}
    (member : set.contains character) (next : Continuation) (offset : Nat) (rest : List Char) :
    matchThen (.run set 0 (some 1)) next offset (character :: rest) =
      (next (offset + 1) rest).or (next offset (character :: rest)) := by
  have ends : runEnds set 0 (some 1) 0 [] offset (character :: rest) =
      [(offset + 1, rest), (offset, character :: rest)] := by
    cases rest <;> simp [runEnds, member]
  simp only [matchThen]
  rw [ends, firstOf, firstOf, firstOf]
  cases next (offset + 1) rest <;> cases next offset (character :: rest) <;> rfl

/-- A run of at most one character takes nothing in front of another character. -/
theorem matchThen_run_one_of_not_mem {set : CharSet} {rest : List Char}
    (outside : ∀ character ∈ rest.head?, set.contains character = false) (next : Continuation)
    (offset : Nat) : matchThen (.run set 0 (some 1)) next offset rest = next offset rest := by
  have ends : runEnds set 0 (some 1) 0 [] offset rest = [(offset, rest)] := by
    cases rest with
    | nil => simp [runEnds]
    | cons character rest => simp [runEnds, outside character (by simp)]
  simp only [matchThen]
  rw [ends, firstOf, firstOf]
  cases next offset rest <;> rfl

/-- An optional part is tried first, and left out if the match cannot go on from it. -/
theorem matchThen_optional (body : Pattern) (next : Continuation) (offset : Nat)
    (rest : List Char) :
    matchThen (.repeated body 0 (some 1) true) next offset rest =
      (matchThen body next offset rest).or (next offset rest) := by
  simp only [matchThen, Nat.repeat, further, if_true, Nat.sub_zero, ite_self]
  cases matchThen body next offset rest <;> rfl

end Pattern
end Descent
