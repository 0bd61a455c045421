import Descent.Call.Grammar

/-!
# Nesting depth of a source

The greatest number of calls that reading a source has open at a time, found by a scan over the
tokens that the grammar would take.  A call is open from its opening parenthesis on.  The scan ends
at the first token that the grammar would refuse or where the outermost expression is complete, so
text after that never counts.
-/

namespace Descent
namespace Call

/-- Where the scan stands when an expression must start. -/
structure Scan where
  /-- Number of open calls. -/
  depth : Nat
  /-- Greatest number of open calls so far. -/
  deepest : Nat
  rest : List Char

namespace Scan

/-- What the scan does next. -/
inductive Step where
  | done (deepest : Nat)
  | expression (scan : Scan)

/-- An expression has just ended: calls are closed until an argument follows. -/
def close (deepest : Nat) : Nat → List Char → Step
  | _, [] => .done deepest
  | depth, character :: rest =>
      if character = ')' then
        if depth ≤ 1 then .done deepest else close deepest (depth - 1) rest
      else if character = ',' then .expression ⟨depth, deepest, rest⟩
      else .done deepest

/-- A call has just been opened; without arguments it is closed at once. -/
def enter (scan : Scan) : Step :=
  if scan.rest.head? = some ')' then close scan.deepest scan.depth scan.rest else .expression scan

/-- Go over the first token of an expression and the parentheses behind it. -/
def step (scan : Scan) : Step :=
  match identifierPattern.matchEnd? 0 scan.rest with
  | some stop =>
      match scan.rest.drop stop with
      | [] => .done scan.deepest
      | character :: rest =>
          if character = '(' then
            enter ⟨scan.depth + 1, max scan.deepest (scan.depth + 1), rest⟩
          else .done scan.deepest
  | none =>
      match numberPattern.matchEnd? 0 scan.rest with
      | some stop =>
          if scan.depth = 0 then .done scan.deepest
          else close scan.deepest scan.depth (scan.rest.drop stop)
      | none => .done scan.deepest

theorem length_lt_of_close {deepest depth : Nat} {text : List Char} {scan : Scan}
    (closed : close deepest depth text = .expression scan) : scan.rest.length < text.length := by
  induction text generalizing depth with
  | nil => contradiction
  | cons character rest induction =>
      rw [close] at closed
      split at closed
      · split at closed
        · contradiction
        · exact Nat.lt_succ_of_lt (induction closed)
      · split at closed
        · obtain rfl := Step.expression.inj closed
          exact Nat.lt_succ_self _
        · contradiction

theorem length_le_of_enter {scan next : Scan} (entered : scan.enter = .expression next) :
    next.rest.length ≤ scan.rest.length := by
  rw [enter] at entered
  split at entered
  · exact Nat.le_of_lt (length_lt_of_close entered)
  · obtain rfl := Step.expression.inj entered
    exact Nat.le_refl _

theorem length_lt_of_step {scan next : Scan} (stepped : scan.step = .expression next) :
    next.rest.length < scan.rest.length := by
  rw [step] at stepped
  split at stepped
  · rename_i stop _
    have left := (List.drop_sublist stop scan.rest).length_le
    split at stepped
    · contradiction
    · rename_i character rest drop_eq
      rw [drop_eq, List.length_cons] at left
      split at stepped
      · exact Nat.lt_of_le_of_lt (length_le_of_enter stepped) left
      · contradiction
  · split at stepped
    · rename_i stop _
      split at stepped
      · contradiction
      · exact Nat.lt_of_lt_of_le (length_lt_of_close stepped)
          (List.drop_sublist stop scan.rest).length_le
    · contradiction

/-- The greatest number of open calls up to the end of the scan. -/
def run (scan : Scan) : Nat :=
  match stepped : scan.step with
  | .done deepest => deepest
  | .expression next =>
      have := length_lt_of_step stepped
      next.run
termination_by scan.rest.length

end Scan

/-- The greatest number of calls that are open at a time while a source is read. -/
def nestingDepth (characters : List Char) : Nat := Scan.run ⟨0, 0, characters⟩

end Call
end Descent
