import Mathlib.Data.List.Basic
import Descent.Proofs.Parser.Mirror

/-!
# The depth that runs are given

A run is cut off at a depth that is computed from the grammar, the parser and the text that is left.
That depth is enough whenever any depth is.  For if the run of a rule ends, no run of the same rule
at the same position is part of it; so at each position every rule is entered at most once on the way
down, and text is taken before it is entered again.
-/

namespace Descent
namespace Parser

/-! ## Weights -/

theorem weight_pos (parser : Parser) : 0 < parser.weight := by
  cases parser <;> simp only [weight] <;> omega

theorem weightAll_append (first second : List Parser) :
    weightAll (first ++ second) = weightAll first + weightAll second := by
  induction first with
  | nil => simp [weightAll]
  | cons parser parsers induction => simp [weightAll, induction, Nat.add_assoc]

theorem weightAll_le_of_sublist {first second : List Parser} (sublist : first.Sublist second) :
    weightAll first ≤ weightAll second := by
  induction sublist with
  | slnil => exact Nat.le_refl _
  | cons parser _ induction => exact Nat.le_trans induction (Nat.le_add_left _ _)
  | cons_cons parser _ induction => exact Nat.add_le_add_left induction _

theorem weight_le_of_mem {parser : Parser} {parsers : List Parser} (mem : parser ∈ parsers) :
    parser.weight ≤ weightAll parsers := by
  have sublist := weightAll_le_of_sublist (List.singleton_sublist.mpr mem)
  simpa [weightAll] using sublist

variable {environment : Environment} {part parser : Parser} {depth : Nat} {cursor : Cursor}
  {session : Session}

theorem weight_rule_le {name : String} (found : environment.rules.lookup name = some parser) :
    parser.weight ≤ environment.weight := by
  obtain ⟨before, after, rules_eq, -⟩ := List.lookup_eq_some_iff.mp found
  apply weight_le_of_mem
  rw [rules_eq]
  simp

/-- Apart from the rule that a reference names, a part weighs less than the whole. -/
theorem Part.weight_lt (isPart : Part environment part parser)
    (noReference : ∀ name, parser ≠ .rule name) : part.weight < parser.weight := by
  cases isPart with
  | alternative mem | step mem =>
      have := weight_le_of_mem mem
      simp only [weight]
      omega
  | optional | many | transform | traced | observed | product =>
      simp only [weight, weightProduct]
      omega
  | rule => exact absurd rfl (noReference _)

/-! ## Rules that end at a position -/

/-- The run of a rule at a position ends within a depth. -/
def endsWithin (environment : Environment) (depth : Nat) (cursor : Cursor) (name : String) :
    Bool :=
  match (runWithin environment depth (rule name) cursor .fresh).1 with
  | .error .unbounded => false
  | _ => true

theorem endsWithin_iff (environment : Environment) (depth : Nat) (cursor : Cursor) (name : String)
    (session : Session) :
    endsWithin environment depth cursor name = true ↔
      (runWithin environment depth (rule name) cursor session).1 ≠ .error .unbounded := by
  have fresh : endsWithin environment depth cursor name = true ↔
      (runWithin environment depth (rule name) cursor .fresh).1 ≠ .error .unbounded := by
    simp only [endsWithin]
    split <;> simp_all
  rw [fresh]
  constructor <;> intro ended
  · rwa [answer_eq_of_session ended]
  · rwa [answer_eq_of_session ended]

theorem endsWithin_succ {name : String} (ended : endsWithin environment depth cursor name = true) :
    endsWithin environment (depth + 1) cursor name = true := by
  rw [endsWithin_iff _ _ _ _ .fresh] at ended ⊢
  rwa [runWithin_deeper (Nat.le_succ depth) ended]

/-- Number of nodes of those of some rules whose runs at a position end within a depth. -/
def endedWeight (environment : Environment) (depth : Nat) (cursor : Cursor)
    (rules : List (String × Parser)) : Nat :=
  weightAll ((rules.filter fun rule => endsWithin environment depth cursor rule.1).map Prod.snd)

theorem endedWeight_le (environment : Environment) (depth : Nat) (cursor : Cursor) :
    endedWeight environment depth cursor environment.rules ≤ environment.weight :=
  weightAll_le_of_sublist (List.filter_sublist.map Prod.snd)

theorem endedWeight_succ (environment : Environment) (depth : Nat) (cursor : Cursor)
    (rules : List (String × Parser)) :
    endedWeight environment depth cursor rules ≤
      endedWeight environment (depth + 1) cursor rules :=
  weightAll_le_of_sublist
    ((List.monotone_filter_right rules fun _ => endsWithin_succ).map Prod.snd)

/-- The depth that rules may need behind a position if those at the position end within a depth. -/
def margin (environment : Environment) (depth : Nat) (cursor : Cursor) : Nat :=
  endedWeight environment depth cursor environment.rules +
    cursor.remaining * environment.weight

/-- A rule whose run needs one level more than a depth adds its nodes on that level. -/
theorem weight_add_margin_le {name : String}
    (found : environment.rules.lookup name = some parser)
    (late : endsWithin environment depth cursor name = false)
    (ended : endsWithin environment (depth + 1) cursor name = true) :
    parser.weight + margin environment depth cursor ≤ margin environment (depth + 1) cursor := by
  obtain ⟨before, after, rules_eq, -⟩ := List.lookup_eq_some_iff.mp found
  have growsBefore := endedWeight_succ environment depth cursor before
  have growsAfter := endedWeight_succ environment depth cursor after
  have split (depth : Nat) : endedWeight environment depth cursor environment.rules =
      endedWeight environment depth cursor before +
        (endedWeight environment depth cursor [(name, parser)] +
          endedWeight environment depth cursor after) := by
    simp only [endedWeight, rules_eq, List.filter_append, List.map_append, weightAll_append,
      ← List.singleton_append (l := after)]
  have absent : endedWeight environment depth cursor [(name, parser)] = 0 := by
    simp [endedWeight, late, weightAll]
  have present : endedWeight environment (depth + 1) cursor [(name, parser)] = parser.weight := by
    simp [endedWeight, ended, weightAll]
  rw [margin, margin, split, split, absent, present]
  omega

/-- A position behind another one leaves no more room for rules than the other one. -/
theorem margin_le_of_precedes {next : Cursor} (ahead : cursor.Precedes next) :
    margin environment depth next ≤ margin environment (depth + 1) cursor := by
  obtain ⟨source_eq, offset_le⟩ := ahead
  rcases Nat.eq_or_lt_of_le offset_le with offset_eq | offset_lt
  · rw [Cursor.ext source_eq offset_eq.symm]
    exact Nat.add_le_add_right (endedWeight_succ environment depth cursor _) _
  · have bound := next.offset_le
    have shorter : next.remaining + 1 ≤ cursor.remaining := by
      simp only [Cursor.remaining, source_eq] at bound ⊢
      omega
    calc margin environment depth next
        ≤ environment.weight + next.remaining * environment.weight :=
          Nat.add_le_add_right (endedWeight_le environment depth next) _
      _ = (next.remaining + 1) * environment.weight := by rw [Nat.succ_mul, Nat.add_comm]
      _ ≤ cursor.remaining * environment.weight := Nat.mul_le_mul_right _ shorter
      _ ≤ _ := Nat.le_add_left _ _

/-! ## Enough depth -/

/-- A run that ends the same way at two depths mirrors itself, and goes on behind its start. -/
theorem IsForward.mirrored (forward : parser.IsForward environment) {deeper : Nat} {start : Cursor}
    (ahead : start.Precedes cursor)
    (same : (runWithin environment depth parser cursor session).1 ≠ .error .unbounded →
      runWithin environment deeper parser cursor session =
        runWithin environment depth parser cursor session) :
    Mirrored Eq Fault.IsUnbounded start.Precedes
      (runWithin environment depth parser cursor session)
      (runWithin environment deeper parser cursor session) := by
  rcases ran : runWithin environment depth parser cursor session with
    ⟨fault | ⟨value, next⟩ | failure, after⟩
  · by_cases unbounded : fault = .unbounded
    · have excused : Fault.IsUnbounded fault := unbounded
      exact .excused excused after _
    · rw [same (by simp [ran, unbounded]), ran]
      exact .fault fault rfl
  · rw [same (by simp [ran]), ran]
    exact .matched value (ahead.trans (forward.goesForward depth _ _ _ _ _ ran)) rfl
  · rw [same (by simp [ran]), ran]
    exact .failed failure rfl

/--
A run that ends does so within the nodes of its parser, of the rules that end at its start, and of
all rules once for each character that is left.
-/
theorem runWithin_margin (forward : parser.IsForward environment)
    (ended : (runWithin environment depth parser cursor session).1 ≠ .error .unbounded) :
    runWithin environment (parser.weight + margin environment depth cursor) parser cursor session =
      runWithin environment depth parser cursor session := by
  induction depth generalizing parser cursor session with
  | zero => exact absurd rfl ended
  | succ depth induction =>
      -- Parts other than rules are lighter, so one level less is enough for them.
      obtain ⟨fuel, fuel_eq⟩ : ∃ fuel,
          parser.weight + margin environment (depth + 1) cursor = fuel + 1 :=
        Nat.exists_eq_add_of_le' (Nat.le_add_right_of_le parser.weight_pos)
      have mirrors {part : Parser} (isPart : Part environment part parser)
          (noReference : ∀ name, parser ≠ .rule name) :
          Action.Mirrors Eq Fault.IsUnbounded cursor.Precedes (runWithin environment depth part)
            (runWithin environment fuel part) := by
        rintro next ahead session _ rfl
        have forwardPart := forward.of_part isPart
        have lighter := isPart.weight_lt noReference
        have room : margin environment depth next ≤ margin environment (depth + 1) cursor :=
          margin_le_of_precedes ahead
        refine forwardPart.mirrored ahead fun ended => ?_
        have enough := induction forwardPart ended
        rw [← enough] at ended ⊢
        exact runWithin_deeper (by omega) ended
      have same {action mirror : Action}
          (mirrors : Action.Mirrors Eq Fault.IsUnbounded cursor.Precedes action mirror)
          (ended : (action cursor session).1 ≠ .error .unbounded) :
          mirror cursor session = action cursor session := by
        have mirrored := mirrors cursor (.refl cursor) session session rfl
        obtain ⟨answer_eq, session_eq⟩ := mirrored.answer_eq_of_ended ended
        exact Prod.ext answer_eq session_eq.symm
      have closed : Action.IsClosed cursor.Precedes := fun _ _ ahead behind => behind.trans ahead
      have stays : parser.StaysIn environment cursor.Precedes := fun answer occurs =>
        (forward answer occurs).staysIn closed
      rw [fuel_eq]
      cases parser with
      | traced name body =>
          have body := mirrors (.traced name body) (by simp)
          refine same ?_ ended
          simp only [runWithin]
          split
          · exact body.traced Session.isLikeness_eq name
          · exact body
      | rule name =>
          simp only [weight] at fuel_eq
          obtain rfl : fuel = margin environment (depth + 1) cursor := by omega
          cases found : environment.rules.lookup name with
          | none => simp only [runWithin, found]
          | some body =>
              have endedRule :=
                (endsWithin_iff environment (depth + 1) cursor name session).mpr ended
              cases late : endsWithin environment depth cursor name with
              | true =>
                  have endedEarly := (endsWithin_iff _ _ _ _ session).mp late
                  have enough := induction forward endedEarly
                  rw [runWithin_deeper (Nat.le_succ depth) endedEarly, ← enough]
                  rw [← enough] at endedEarly
                  have room : margin environment depth cursor ≤
                      margin environment (depth + 1) cursor := margin_le_of_precedes (.refl cursor)
                  exact runWithin_deeper (by simp only [weight]; omega) endedEarly
              | false =>
                  have room := weight_add_margin_le found late endedRule
                  simp only [runWithin, found] at ended ⊢
                  have enough := induction (forward.of_part (.rule found)) ended
                  rw [← enough] at ended ⊢
                  exact runWithin_deeper room ended
      | _ =>
          refine same (SameNode.mirrors Session.isLikeness_eq closed stays ?_) ended
          exact sameNode_self (by simp) (by simp) fun isPart => mirrors isPart (by simp)

/-- The depth that a run is given is enough for every run that ends at some depth. -/
theorem run_eq_of_ended (forward : parser.IsForward environment)
    (ended : (runWithin environment depth parser cursor session).1 ≠ .error .unbounded) :
    parser.run environment cursor session = runWithin environment depth parser cursor session := by
  have enough := runWithin_margin forward ended
  have le : parser.weight + margin environment depth cursor ≤
      sufficientDepth environment parser cursor := by
    have rules := endedWeight_le environment depth cursor
    have characters : cursor.remaining * environment.weight ≤
        cursor.remaining * (environment.weight + parser.weight + 1) :=
      Nat.mul_le_mul_left _ (by omega)
    rw [margin, sufficientDepth, Nat.succ_mul]
    omega
  rw [← enough] at ended ⊢
  exact runWithin_deeper le ended

end Parser
end Descent
