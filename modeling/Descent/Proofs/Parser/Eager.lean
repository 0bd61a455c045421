import Descent.Proofs.Parser.Bare
import Descent.Proofs.Parser.Refactoring

/-!
# Parsers without put-off constructions

In the eager form of a parser each deferred parser is replaced by what its construction yields: its
parser, or a parser that ends with its fault.  A parser and its eager form answer the same at every
position, whatever cells a session holds as built.
-/

namespace Descent

namespace Parser

/-! ## Eager parsers -/

mutual

/-- A parser with all its constructions carried out. -/
def eager : Parser → Parser
  | literal text nonempty => literal text nonempty
  | pattern described label => pattern described label
  | endOfInput => endOfInput
  | primitive answer => primitive answer
  | anyOf alternatives => anyOf (eagerAll alternatives)
  | optional body => optional (eager body)
  | many body => many (eager body)
  | sequence steps => sequence (eagerAll steps)
  | transform function body => transform function (eager body)
  | traced name body => traced name (eager body)
  | observed tag body => observed tag (eager body)
  | deferred _ _ _ product => eagerProduct product
  | rule name => rule name

/-- Some parsers with all their constructions carried out. -/
def eagerAll : List Parser → List Parser
  | [] => []
  | parser :: parsers => eager parser :: eagerAll parsers

/-- What stands for a construction that was carried out. -/
def eagerProduct : Except Fault Parser → Parser
  | .error fault => primitive fun _ => .error fault
  | .ok body => eager body

end

theorem eagerAll_eq_map (parsers : List Parser) : eagerAll parsers = parsers.map eager := by
  induction parsers with
  | nil => rfl
  | cons parser parsers induction => rw [eagerAll, List.map_cons, induction]

theorem isTranslation_eager : IsTranslation eager where
  literal _ _ := rfl
  pattern _ _ := rfl
  endOfInput := rfl
  primitive _ := rfl
  anyOf alternatives := by rw [eager, eagerAll_eq_map]
  optional _ := rfl
  many _ := rfl
  sequence steps := by rw [eager, eagerAll_eq_map]
  transform _ _ := rfl
  observed _ _ := rfl

end Parser

/-- The rules with all their constructions carried out. -/
def Environment.eager (environment : Environment) : Environment :=
  ⟨environment.grammar, environment.rules.map fun rule => (rule.1, rule.2.eager),
    environment.tracing⟩

namespace Parser

variable {alike : Session → Session → Prop} {environment : Environment} {parser : Parser}
  {depth deeper : Nat} {cursor : Cursor} {answer : Except Fault Outcome}

theorem lookup_eager (environment : Environment) (name : String) :
    environment.eager.rules.lookup name = (environment.rules.lookup name).map eager :=
  lookup_map_snd eager environment.rules name

/-! ## Runs -/

/-- To carry out the constructions beforehand needs no more depth. -/
theorem mirrors_eager (le : depth ≤ deeper) :
    Action.Mirrors (fun _ _ => True) Fault.IsUnbounded (fun _ => True)
      (runWithin environment depth parser)
      (runWithin environment.eager deeper parser.eager) := by
  have likeness := Session.isLogBlind_true.toIsLikeness
  induction depth generalizing deeper parser with
  | zero =>
      have unbounded : Fault.IsUnbounded .unbounded := rfl
      exact Action.mirrors_raise_of_excused unbounded _
  | succ depth induction =>
      obtain ⟨deeper, rfl⟩ := Nat.exists_eq_add_of_le' (Nat.le_trans (Nat.le_add_left 1 _) le)
      have below := Nat.le_of_add_le_add_right le
      cases parser with
      | deferred cell tag references product =>
          cases product with
          | error fault =>
              simp only [runWithin, eager, eagerProduct, Action.deferred_error]
              exact fun _ _ _ _ _ => .fault fault trivial
          | ok body =>
              simp only [runWithin, eager, eagerProduct, Action.deferred_ok]
              have inner : Action.Mirrors (fun _ _ => True) Fault.IsUnbounded (fun _ => True)
                  (runWithin environment depth body) _ := induction (Nat.le_of_succ_le le)
              exact inner.inSession fun _ _ _ _ => trivial
      | traced name body =>
          simp only [runWithin, eager, Environment.eager]
          split
          · exact (induction below).traced likeness name
          · exact induction below
      | rule name =>
          simp only [runWithin, eager, lookup_eager]
          cases environment.rules.lookup name with
          | none => exact Action.mirrors_raise _
          | some body => exact induction below
      | _ =>
          refine SameNode.mirrors likeness isClosed_everywhere (staysIn_everywhere environment _) ?_
          exact isTranslation_eager.sameNode environment (by simp) (by simp) (by simp) fun _ =>
            induction below

/-- To put the constructions off needs as much more depth as the rules have nodes, for each rule. -/
theorem mirrors_of_eager (le : depth * environment.weight + parser.weight ≤ deeper) :
    Action.Mirrors (fun _ _ => True) Fault.IsUnbounded (fun _ => True)
      (runWithin environment.eager depth parser.eager) (runWithin environment deeper parser) := by
  have likeness := Session.isLogBlind_true.toIsLikeness
  -- The induction is on the depth of the run that constructs, for a construction takes a level.
  induction deeper generalizing depth parser with
  | zero => exact absurd parser.weight_pos (by omega)
  | succ deeper induction =>
      cases depth with
      | zero =>
          have unbounded : Fault.IsUnbounded .unbounded := rfl
          exact Action.mirrors_raise_of_excused unbounded _
      | succ depth =>
          have step : depth * environment.weight ≤ (depth + 1) * environment.weight :=
            Nat.mul_le_mul_right _ (Nat.le_succ depth)
          have inside (part : Parser) (lighter : part.weight < parser.weight) :
              Action.Mirrors (fun _ _ => True) Fault.IsUnbounded (fun _ => True)
                (runWithin environment.eager depth part.eager)
                (runWithin environment deeper part) :=
            induction (by omega)
          cases parser with
          | deferred cell tag references product =>
              cases product with
              | error fault =>
                  simp only [runWithin, eager, eagerProduct, Action.deferred_error]
                  exact fun _ _ _ _ _ => .fault fault trivial
              | ok body =>
                  simp only [runWithin, eager, eagerProduct, Action.deferred_ok]
                  have inner : Action.Mirrors (fun _ _ => True) Fault.IsUnbounded _
                      (runWithin environment.eager (depth + 1) body.eager) _ := induction (by
                    simp only [weight, weightProduct] at le
                    omega)
                  exact inner.inSession fun _ _ _ _ => trivial
          | traced name body =>
              have inner := inside body (by simp only [weight]; omega)
              simp only [runWithin, eager, Environment.eager]
              split
              · exact inner.traced likeness name
              · exact inner
          | rule name =>
              simp only [runWithin, eager, lookup_eager]
              cases found : environment.rules.lookup name with
              | none => exact Action.mirrors_raise _
              | some body =>
                  have lighter := weight_rule_le found
                  refine induction ?_
                  rw [Nat.succ_mul, weight] at le
                  omega
          | _ =>
              refine SameNode.mirrors likeness isClosed_everywhere
                (staysIn_everywhere _ _) ?_
              refine SameNode.swap ?_
              exact isTranslation_eager.sameNode environment (by simp) (by simp) (by simp)
                fun isPart => inside _ (isPart.weight_lt (by simp))

/-- A parser and its eager form have the same answers. -/
theorem answers_eager_iff :
    parser.eager.Answers environment.eager cursor answer ↔
      parser.Answers environment cursor answer := by
  constructor
  · rintro ⟨ended, depth, session, ran⟩
    have mirrored := mirrors_of_eager (Nat.le_refl (depth * environment.weight + parser.weight))
      cursor trivial session session trivial
    exact ⟨ended, _, session, (mirrored.answer_eq_of_ended (ran ▸ ended)).1.trans ran⟩
  · rintro ⟨ended, depth, session, ran⟩
    have mirrored : Mirrored (fun _ _ => True) Fault.IsUnbounded _
        (runWithin environment depth parser cursor session) _ :=
      mirrors_eager (Nat.le_refl depth) cursor trivial session session trivial
    exact ⟨ended, depth, session, (mirrored.answer_eq_of_ended (ran ▸ ended)).1.trans ran⟩

/-! ## What occurs in an eager parser -/

/-- The parts of an eager parser are eager forms of what occurs in the parser. -/
theorem exists_of_part_eager {inner : Parser}
    (isPart : Part environment.eager inner parser.eager) :
    ∃ part, part.eager = inner ∧ Occurs environment part parser := by
  -- A construction in another one is none of the parts, so that the induction is on the weight.
  induction weight_eq : parser.weight using Nat.strongRecOn generalizing parser with
  | _ weight induction =>
      cases parser with
      | deferred cell tag references product =>
          cases product with
          | error fault => cases isPart
          | ok body =>
              have lighter : body.weight < weight := by
                simp only [Parser.weight, weightProduct] at weight_eq
                omega
              have inBody : Part environment.eager inner body.eager := isPart
              obtain ⟨part, part_eq, occurs⟩ := induction _ lighter inBody rfl
              exact ⟨part, part_eq, occurs.tail (.product cell tag references body)⟩
      | literal | pattern | endOfInput | primitive => cases isPart
      | anyOf alternatives =>
          rw [isTranslation_eager.anyOf] at isPart
          cases isPart with
          | alternative mem =>
              obtain ⟨part, partMem, part_eq⟩ := List.mem_map.mp mem
              exact ⟨part, part_eq, .single (.alternative partMem)⟩
      | sequence steps =>
          rw [isTranslation_eager.sequence] at isPart
          cases isPart with
          | step mem =>
              obtain ⟨part, partMem, part_eq⟩ := List.mem_map.mp mem
              exact ⟨part, part_eq, .single (.step partMem)⟩
      | optional body =>
          cases isPart with
          | optional => exact ⟨body, rfl, .single (.optional body)⟩
      | many body =>
          cases isPart with
          | many => exact ⟨body, rfl, .single (.many body)⟩
      | transform function body =>
          cases isPart with
          | transform => exact ⟨body, rfl, .single (.transform function body)⟩
      | traced name body =>
          cases isPart with
          | traced => exact ⟨body, rfl, .single (.traced name body)⟩
      | observed tag body =>
          cases isPart with
          | observed => exact ⟨body, rfl, .single (.observed tag body)⟩
      | rule name =>
          cases isPart with
          | rule found =>
              rw [lookup_eager, Option.map_eq_some_iff] at found
              obtain ⟨body, found, body_eq⟩ := found
              exact ⟨body, body_eq, .single (.rule found)⟩

theorem exists_of_occurs_eager {inner : Parser}
    (occurs : Occurs environment.eager inner parser.eager) :
    ∃ part, part.eager = inner ∧ Occurs environment part parser := by
  generalize whole_eq : parser.eager = whole at occurs
  induction occurs generalizing parser with
  | refl => exact ⟨parser, whole_eq, .refl⟩
  | tail _ isPart induction =>
      rw [← whole_eq] at isPart
      obtain ⟨middle, middle_eq, inside⟩ := exists_of_part_eager isPart
      obtain ⟨part, part_eq, further⟩ := induction middle_eq
      exact ⟨part, part_eq, further.trans inside⟩

/-- A function of the position in an eager parser is one of the parser, or ends with a fault. -/
theorem occurs_primitive_of_eager {function : Cursor → Except Fault Outcome}
    (function_eq : parser.eager = primitive function) :
    Occurs environment (primitive function) parser ∨
      ∃ fault, function = fun _ => .error fault := by
  induction weight_eq : parser.weight using Nat.strongRecOn generalizing parser with
  | _ weight induction =>
      cases parser with
      | deferred cell tag references product =>
          cases product with
          | error fault => exact .inr ⟨fault, (primitive.inj function_eq).symm⟩
          | ok body =>
              have lighter : body.weight < weight := by
                simp only [Parser.weight, weightProduct] at weight_eq
                omega
              have body_eq : body.eager = primitive function := function_eq
              refine (induction _ lighter body_eq rfl).imp_left fun occurs => ?_
              exact occurs.tail (.product cell tag references body)
      | primitive other =>
          obtain rfl := primitive.inj function_eq
          exact .inl .refl
      | _ => cases function_eq

/-- The eager form of a parser goes forward if the parser does. -/
theorem IsForward.eager (forward : parser.IsForward environment) :
    parser.eager.IsForward environment.eager := by
  intro function occurs
  obtain ⟨part, part_eq, inside⟩ := exists_of_occurs_eager occurs
  rcases occurs_primitive_of_eager part_eq with found | ⟨fault, rfl⟩
  · exact forward function (found.trans inside)
  · intro cursor session value next after ran
    cases ran

/-- A parser that goes forward and its eager form have the same outcomes. -/
theorem IsForward.outcomeAt_eager (forward : parser.IsForward environment) (cursor : Cursor) :
    parser.eager.outcomeAt environment.eager cursor = parser.outcomeAt environment cursor :=
  outcomeAt_eq_of_answers forward.eager forward fun _ => answers_eager_iff

end Parser
end Descent
