import Descent.Proofs.Parser.SufficientDepth

/-!
# Parsers without their traces

A parser is bare when its traces are left out and the cells of its deferred parsers are replaced by
their numbers.  Parsers that are the same when bare, run over rules that are the same when bare, do
the same: a run that ends is mirrored by the run of the other parser.  To leave out traces needs no
more depth; to put them in needs as much as the nodes of the rules for every rule that is entered.
-/

namespace Descent

namespace Parser

/-! ## Bare parsers -/

mutual

/-- A parser without its traces, its cells being replaced by their numbers. -/
def bare (number : Nat → Nat) : Parser → Parser
  | literal text nonempty => literal text nonempty
  | pattern described label => pattern described label
  | endOfInput => endOfInput
  | primitive answer => primitive answer
  | anyOf alternatives => anyOf (bareAll number alternatives)
  | optional body => optional (bare number body)
  | many body => many (bare number body)
  | sequence steps => sequence (bareAll number steps)
  | transform function body => transform function (bare number body)
  | traced _ body => bare number body
  | observed tag body => observed tag (bare number body)
  | deferred cell tag references product =>
      deferred (number cell) tag references (bareProduct number product)
  | rule name => rule name

/-- Some parsers without their traces. -/
def bareAll (number : Nat → Nat) : List Parser → List Parser
  | [] => []
  | parser :: parsers => bare number parser :: bareAll number parsers

/-- What a construction yields, without its traces. -/
def bareProduct (number : Nat → Nat) : Except Fault Parser → Except Fault Parser
  | .error fault => .error fault
  | .ok body => .ok (bare number body)

end

theorem bareAll_eq_map (number : Nat → Nat) (parsers : List Parser) :
    bareAll number parsers = parsers.map (bare number) := by
  induction parsers with
  | nil => rfl
  | cons parser parsers induction => rw [bareAll, List.map_cons, induction]

/-- Some rules without their traces. -/
def bareRules (number : Nat → Nat) (rules : List (String × Parser)) : List (String × Parser) :=
  rules.map fun rule => (rule.1, rule.2.bare number)

theorem lookup_map_snd {α β : Type} (function : α → β) (rules : List (String × α)) (name : String) :
    (rules.map fun rule => (rule.1, function rule.2)).lookup name =
      (rules.lookup name).map function := by
  induction rules with
  | nil => rfl
  | cons rule rules induction =>
      rw [List.map_cons, List.lookup_cons, List.lookup_cons]
      cases name == rule.1 with
      | true => rfl
      | false => exact induction

theorem lookup_bareRules (number : Nat → Nat) (rules : List (String × Parser)) (name : String) :
    (bareRules number rules).lookup name = (rules.lookup name).map (bare number) :=
  lookup_map_snd (bare number) rules name

end Parser

namespace Environment

/-- The rules without their traces. -/
def bare (number : Nat → Nat) (environment : Environment) : Environment :=
  ⟨environment.grammar, Parser.bareRules number environment.rules, false⟩

/--
All rules of the first grammar are rules of the second one when bare.  Rules that the first one
lacks are lacking in the second one, too, or to look for them is excused.
-/
structure Resembles (number : Nat → Nat) (excused : Fault → Prop) (first second : Environment) :
    Prop where
  defined {name : String} {body : Parser} (found : first.rules.lookup name = some body) :
    ∃ other, second.rules.lookup name = some other ∧ other.bare number = body.bare number
  missing {name : String} (absent : first.rules.lookup name = none) :
    excused (.undefinedRule (.reference name first.grammar)) ∨
      second.rules.lookup name = none ∧ second.grammar = first.grammar

/-- Rules that are looked up with the same results, when bare, resemble each other. -/
theorem resembles_of_lookup_eq {number : Nat → Nat} {first second : Environment}
    (grammar_eq : second.grammar = first.grammar)
    (lookup_eq : ∀ name, (second.rules.lookup name).map (Parser.bare number) =
      (first.rules.lookup name).map (Parser.bare number)) (excused : Fault → Prop) :
    first.Resembles number excused second where
  defined {name body} found := by
    have same := lookup_eq name
    rw [found, Option.map_some] at same
    obtain ⟨other, otherFound, bare_eq⟩ := Option.map_eq_some_iff.mp same
    exact ⟨other, otherFound, bare_eq⟩
  missing {name} absent := by
    have same := lookup_eq name
    rw [absent, Option.map_none] at same
    exact .inr ⟨Option.map_eq_none_iff.mp same, grammar_eq⟩

end Environment

namespace Parser

variable {number : Nat → Nat} {alike : Session → Session → Prop} {excused : Fault → Prop}
  {environment first second : Environment} {parser other : Parser} {depth deeper : Nat}

theorem isTranslation_bare (number : Nat → Nat) : IsTranslation (bare number) where
  literal _ _ := rfl
  pattern _ _ := rfl
  endOfInput := rfl
  primitive _ := rfl
  anyOf alternatives := by rw [bare, bareAll_eq_map]
  optional _ := rfl
  many _ := rfl
  sequence steps := by rw [bare, bareAll_eq_map]
  transform _ _ := rfl
  observed _ _ := rfl

/-- A parser and its bare form are the same on top. -/
theorem sameNode_bare (environment : Environment)
    (idempotent : ∀ cell, number (number cell) = number cell) {related : Parser → Parser → Prop}
    (noReference : ∀ name, parser ≠ .rule name) (noTrace : ∀ name body, parser ≠ .traced name body)
    (each : ∀ {part : Parser}, Part environment part parser → related part (part.bare number)) :
    SameNode number related parser (parser.bare number) := by
  cases parser with
  | deferred cell tag references product =>
      have cells : number cell = number (number cell) := (idempotent cell).symm
      cases product with
      | error fault => exact .unbuilt cells tag references fault
      | ok body => exact .product cells tag references (each (.product cell tag references body))
  | _ => exact (isTranslation_bare number).sameNode environment noReference noTrace (by simp) each

/-! ## Runs -/

/-- To leave out traces needs no more depth. -/
theorem mirrors_bare (blind : Session.IsLogBlind number alike)
    (le : depth ≤ deeper) :
    Action.Mirrors alike Fault.IsUnbounded (fun _ => True) (runWithin environment depth parser)
      (runWithin (environment.bare number) deeper (parser.bare number)) := by
  induction depth generalizing deeper parser with
  | zero =>
      have unbounded : Fault.IsUnbounded .unbounded := rfl
      exact Action.mirrors_raise_of_excused unbounded _
  | succ depth induction =>
      cases parser with
      | traced name inner =>
          have body : Action.Mirrors alike _ _ (runWithin environment depth inner) _ :=
            induction (Nat.le_of_succ_le le)
          simp only [runWithin, bare]
          split
          · exact body.traced_left blind name
          · exact body
      | rule name =>
          obtain ⟨deeper, rfl⟩ := Nat.exists_eq_add_of_le' (Nat.le_trans (Nat.le_add_left 1 _) le)
          simp only [runWithin, bare, Environment.bare, lookup_bareRules]
          cases environment.rules.lookup name with
          | none => exact Action.mirrors_raise _
          | some inner => exact induction (Nat.le_of_add_le_add_right le)
      | _ =>
          obtain ⟨deeper, rfl⟩ := Nat.exists_eq_add_of_le' (Nat.le_trans (Nat.le_add_left 1 _) le)
          refine SameNode.mirrors blind.toIsLikeness isClosed_everywhere
            (staysIn_everywhere environment _) ?_
          exact sameNode_bare environment blind.idempotent (by simp) (by simp) fun _ =>
            induction (Nat.le_of_add_le_add_right le)

/-- To put in traces needs as much more depth as the rules have nodes, for each rule entered. -/
theorem mirrors_of_bare (blind : Session.IsLogBlind number alike)
    (cutOff : excused .unbounded) (resembles : first.Resembles number excused second)
    (le : depth * second.weight + parser.weight ≤ deeper) :
    Action.Mirrors alike excused (fun _ => True)
      (runWithin (first.bare number) depth (parser.bare number))
      (runWithin second deeper parser) := by
  -- The induction is on the depth with traces, for a trace takes a level on that side only.
  induction deeper generalizing depth parser with
  | zero => exact absurd parser.weight_pos (by omega)
  | succ deeper induction =>
      cases depth with
      | zero => exact Action.mirrors_raise_of_excused cutOff _
      | succ depth =>
          have step : depth * second.weight ≤ (depth + 1) * second.weight :=
            Nat.mul_le_mul_right _ (Nat.le_succ depth)
          cases parser with
          | traced name inner =>
              have body : Action.Mirrors alike excused _
                  (runWithin (first.bare number) (depth + 1) (inner.bare number)) _ :=
                induction (by
                  simp only [weight] at le
                  omega)
              simp only [runWithin, bare]
              split
              · exact body.traced_right blind name
              · exact body
          | rule name =>
              simp only [runWithin, bare, Environment.bare, lookup_bareRules]
              cases found : first.rules.lookup name with
              | none =>
                  rcases resembles.missing found with excuse | ⟨absent, grammar_eq⟩
                  · exact Action.mirrors_raise_of_excused excuse _
                  · simp only [absent, grammar_eq]
                    exact Action.mirrors_raise _
              | some body =>
                  obtain ⟨other, otherFound, bare_eq⟩ := resembles.defined found
                  have lighter := weight_rule_le otherFound
                  simp only [otherFound, Option.map_some, ← bare_eq]
                  refine induction ?_
                  rw [Nat.succ_mul, weight] at le
                  omega
          | _ =>
              refine SameNode.mirrors blind.toIsLikeness isClosed_everywhere
                (staysIn_everywhere _ _) ?_
              refine SameNode.swap ?_
              refine sameNode_bare second blind.idempotent (by simp) (by simp) fun isPart => induction ?_
              have lighter := isPart.weight_lt (by simp)
              omega

/-- Parsers that are the same when bare do the same in sessions that are alike. -/
theorem run_of_resembles (blind : Session.IsLogBlind number alike) (cutOff : excused .unbounded)
    (resembles : first.Resembles number excused second)
    (same : parser.bare number = other.bare number) (forward : other.IsForward second)
    {cursor : Cursor} {session otherSession : Session}
    (ended : ∀ fault, excused fault → (parser.run first cursor session).1 ≠ .error fault)
    (sessions : alike session otherSession) :
    (other.run second cursor otherSession).1 = (parser.run first cursor session).1 ∧
      alike (parser.run first cursor session).2 (other.run second cursor otherSession).2 := by
  let depth := sufficientDepth first parser cursor
  have withoutTraces : Mirrored alike Fault.IsUnbounded _ (parser.run first cursor session) _ :=
    mirrors_bare blind (Nat.le_refl depth) cursor trivial session otherSession sessions
  obtain ⟨bareAnswer_eq, bareAlike⟩ := withoutTraces.answer_eq_of_ended (ended _ cutOff)
  have withTraces : Mirrored alike excused _
      (runWithin (first.bare number) depth (other.bare number) cursor otherSession) _ :=
    mirrors_of_bare blind cutOff resembles (Nat.le_refl _) cursor trivial otherSession
      otherSession (blind.equivalence.refl otherSession)
  rw [← same] at withTraces
  obtain ⟨answer_eq, after⟩ := withTraces.answer_eq fun fault holds => by
    rw [bareAnswer_eq]
    exact ended fault holds
  rw [bareAnswer_eq] at answer_eq
  rw [run_eq_of_ended forward (by rw [answer_eq]; exact ended _ cutOff)]
  exact ⟨answer_eq, blind.equivalence.trans bareAlike after⟩

end Parser
end Descent
