import Descent.Proofs.Call.Derivation
import Descent.Proofs.Parser.Settled

/-!
# Calls that are open

A call is open from its opening parenthesis to the end of the run of its rule.  The history of a
run tells at every moment which rules have been entered and not left, so it tells how many calls
are open at a time.
-/

namespace Descent
namespace Call

/-- A rule that has been entered and not been left. -/
structure Activation where
  rule : String
  /-- An opening parenthesis has been taken by the rule itself. -/
  opened : Bool

/-- The activations after one more moment, the innermost first. -/
def track (stack : List Activation) : Moment → List Activation
  | .entered rule _ => ⟨rule, false⟩ :: stack
  | .left _ => stack.tail
  | .took (.literal text _) _ _ =>
      if text = "(" then stack.modifyHead fun activation => { activation with opened := true }
      else stack
  | .took _ _ _ => stack
  | .failed _ _ => stack

/-- The activation is a call past its opening parenthesis. -/
def Activation.isOpenCall (activation : Activation) : Bool :=
  decide (activation.rule = Symbol.call.rule) && activation.opened

/-- Number of open calls. -/
def openCalls (stack : List Activation) : Nat := stack.countP Activation.isOpenCall

/-- The greatest number of calls that are open at any moment of a history. -/
def deepest : List Activation → List Moment → Nat
  | stack, [] => openCalls stack
  | stack, moment :: moments => max (openCalls stack) (deepest (track stack moment) moments)

/-- The greatest number of calls that the run of a parser at a position has open at a time. -/
def openDepth (parser : Parser) (cursor : Cursor) : Nat :=
  deepest [] (parser.historyAt environment cursor)

/-- A history that leaves all activations as they were, with a height of open calls above them. -/
def Opens (moments : List Moment) (height : Nat) : Prop :=
  ∀ stack, moments.foldl track stack = stack ∧ deepest stack moments = openCalls stack + height

theorem deepest_append (stack : List Activation) (moments further : List Moment) :
    deepest stack (moments ++ further) =
      max (deepest stack moments) (deepest (moments.foldl track stack) further) := by
  induction moments generalizing stack with
  | nil =>
      have self_le : openCalls stack ≤ deepest stack further := by
        cases further with
        | nil => exact Nat.le_refl _
        | cons moment moments => exact Nat.le_max_left _ _
      exact (Nat.max_eq_right self_le).symm
  | cons moment moments induction =>
      simp only [List.cons_append, deepest, List.foldl_cons]
      rw [induction, Nat.max_assoc]

theorem openCalls_cons_closed (rule : String) (stack : List Activation) :
    openCalls (⟨rule, false⟩ :: stack) = openCalls stack := by
  simp [openCalls, Activation.isOpenCall]

theorem openCalls_cons_open (stack : List Activation) :
    openCalls (⟨Symbol.call.rule, true⟩ :: stack) = openCalls stack + 1 := by
  simp [openCalls, Activation.isOpenCall]

/-! ## Histories that end as they began -/

/-- A moment that changes no activation. -/
theorem opens_singleton {moment : Moment} (silent : ∀ stack, track stack moment = stack) :
    Opens [moment] 0 := by
  intro stack
  simp [deepest, silent stack]

theorem opens_failed (reader : Parser) (failure : Failure) : Opens [.failed reader failure] 0 :=
  opens_singleton fun _ => rfl

theorem opens_took_literal {text : String} {nonempty : text ≠ ""} (ordinary : text ≠ "(")
    (start stop : Nat) : Opens [.took (.literal text nonempty) start stop] 0 :=
  opens_singleton fun _ => if_neg ordinary

theorem opens_took_pattern (described : Pattern) (label : String) (start stop : Nat) :
    Opens [.took (.pattern described label) start stop] 0 :=
  opens_singleton fun _ => rfl

theorem opens_nil : Opens [] 0 := fun _ => ⟨rfl, rfl⟩

theorem Opens.append {moments further : List Moment} {height furtherHeight : Nat}
    (opens : Opens moments height) (furtherOpens : Opens further furtherHeight) :
    Opens (moments ++ further) (max height furtherHeight) := by
  intro stack
  obtain ⟨restored, reached⟩ := opens stack
  obtain ⟨furtherRestored, furtherReached⟩ := furtherOpens stack
  constructor
  · rw [List.foldl_append, restored, furtherRestored]
  · rw [deepest_append, restored, reached, furtherReached, Nat.add_max_add_left]

/-- The run of a rule whose body opens nothing itself. -/
theorem Opens.rule {moments : List Moment} {height : Nat} (opens : Opens moments height)
    (name : String) (offset : Nat) :
    Opens (.entered name offset :: (moments ++ [.left name])) height := by
  intro stack
  obtain ⟨restored, reached⟩ := opens (⟨name, false⟩ :: stack)
  constructor
  · simp [track, restored]
  · simp only [deepest, track, deepest_append, restored, reached, openCalls_cons_closed,
      List.tail_cons]
    omega

/-- The run of a call: what comes behind the opening parenthesis is one call higher. -/
theorem Opens.call {target arguments : List Moment} {height : Nat} (opensTarget : Opens target 0)
    (opens : Opens arguments height) {nonempty : "(" ≠ ""} (offset start stop : Nat) :
    Opens
      (.entered Symbol.call.rule offset ::
        ((target ++ ([.took (.literal "(" nonempty) start stop] ++ arguments)) ++
          [.left Symbol.call.rule]))
      (height + 1) := by
  intro stack
  obtain ⟨targetRestored, targetReached⟩ := opensTarget (⟨Symbol.call.rule, false⟩ :: stack)
  obtain ⟨restored, reached⟩ := opens (⟨Symbol.call.rule, true⟩ :: stack)
  constructor
  · simp [track, targetRestored, restored]
  · simp only [deepest, track, deepest_append, targetRestored, targetReached, List.cons_append,
      List.nil_append, List.foldl_cons, List.foldl_append, if_true, List.modifyHead_cons, restored,
      reached, openCalls_cons_closed, openCalls_cons_open, List.tail_cons]
    omega

/-- The greatest number of open calls in a history from the beginning. -/
theorem Opens.deepest_nil {moments : List Moment} {height : Nat} (opens : Opens moments height) :
    deepest [] moments = height := by
  rw [(opens []).2]
  exact Nat.zero_add height

end Call
end Descent
