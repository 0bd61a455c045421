import Descent.Proofs.Parser.Provenance

/-!
# Occurrences

What occurs in a parser, constructor by constructor.  Over no rules, the occurrences are the nodes
of the term; over the rules of a grammar, they are its nodes and those of the rules.
-/

namespace Descent
namespace Parser

variable {environment : Environment} {part parser : Parser}

/-- What occurs in a parser is the parser itself, or it occurs in a direct part. -/
theorem occurs_iff :
    Occurs environment part parser ↔
      parser = part ∨ ∃ middle, Occurs environment part middle ∧ Part environment middle parser :=
  Relation.ReflTransGen.cases_tail_iff ..

theorem IsPlain.of_occurs (plain : parser.IsPlain environment)
    (occurs : Occurs environment part parser) : part.IsPlain environment :=
  fun answer inner => plain answer (inner.trans occurs)

/-- Only the rule behind a reference depends on the rules. -/
theorem Part.of_noReference (other : Environment) (isPart : Part environment part parser)
    (noReference : ∀ name, parser ≠ .rule name) : Part other part parser := by
  cases isPart with
  | alternative mem => exact .alternative mem
  | optional => exact .optional part
  | many => exact .many part
  | step mem => exact .step mem
  | transform function => exact .transform function part
  | traced name => exact .traced name part
  | observed tag => exact .observed tag part
  | product cell tag references => exact .product cell tag references part
  | rule => exact absurd rfl (noReference _)

/-- What occurs in a parser over a grammar is one of its nodes, or a node of a rule. -/
theorem Occurs.node_or_rule (occurs : Occurs environment part parser) :
    Occurs .empty part parser ∨
      ∃ name body, environment.rules.lookup name = some body ∧ Occurs .empty part body := by
  induction occurs using Relation.ReflTransGen.head_induction_on with
  | refl => exact .inl .refl
  | @head part middle isPart _ induction =>
      by_cases reference : ∃ name, middle = .rule name
      · obtain ⟨name, rfl⟩ := reference
        cases isPart with
        | rule found => exact .inr ⟨name, part, found, .refl⟩
      · have isNode : Part .empty part middle :=
          isPart.of_noReference _ fun name same => reference ⟨name, same⟩
        rcases induction with inside | ⟨name, body, found, inside⟩
        · exact .inl (inside.head isNode)
        · exact .inr ⟨name, body, found, inside.head isNode⟩

/-! ## Constructors -/

theorem occurs_literal {text : String} {nonempty : text ≠ ""} :
    Occurs environment part (literal text nonempty) ↔ part = literal text nonempty := by
  rw [occurs_iff, eq_comm, or_iff_left]
  rintro ⟨_, -, ⟨⟩⟩

theorem occurs_pattern {described : Pattern} {label : String} :
    Occurs environment part (pattern described label) ↔ part = pattern described label := by
  rw [occurs_iff, eq_comm, or_iff_left]
  rintro ⟨_, -, ⟨⟩⟩

theorem occurs_endOfInput : Occurs environment part endOfInput ↔ part = endOfInput := by
  rw [occurs_iff, eq_comm, or_iff_left]
  rintro ⟨_, -, ⟨⟩⟩

theorem occurs_primitive {answer : Cursor → Except Fault Outcome} :
    Occurs environment part (primitive answer) ↔ part = primitive answer := by
  rw [occurs_iff, eq_comm, or_iff_left]
  rintro ⟨_, -, ⟨⟩⟩

theorem occurs_anyOf {alternatives : List Parser} :
    Occurs environment part (anyOf alternatives) ↔
      part = anyOf alternatives ∨
        ∃ alternative ∈ alternatives, Occurs environment part alternative := by
  rw [occurs_iff, eq_comm]
  refine or_congr_right ⟨?_, fun ⟨_, mem, occurs⟩ => ⟨_, occurs, .alternative mem⟩⟩
  rintro ⟨_, occurs, isPart⟩
  cases isPart with
  | alternative mem => exact ⟨_, mem, occurs⟩

theorem occurs_sequence {steps : List Parser} :
    Occurs environment part (sequence steps) ↔
      part = sequence steps ∨ ∃ step ∈ steps, Occurs environment part step := by
  rw [occurs_iff, eq_comm]
  refine or_congr_right ⟨?_, fun ⟨_, mem, occurs⟩ => ⟨_, occurs, .step mem⟩⟩
  rintro ⟨_, occurs, isPart⟩
  cases isPart with
  | step mem => exact ⟨_, mem, occurs⟩

theorem occurs_optional {body : Parser} :
    Occurs environment part (optional body) ↔
      part = optional body ∨ Occurs environment part body := by
  rw [occurs_iff, eq_comm]
  refine or_congr_right ⟨?_, fun occurs => ⟨_, occurs, .optional body⟩⟩
  rintro ⟨_, occurs, ⟨⟩⟩
  exact occurs

theorem occurs_many {body : Parser} :
    Occurs environment part (many body) ↔ part = many body ∨ Occurs environment part body := by
  rw [occurs_iff, eq_comm]
  refine or_congr_right ⟨?_, fun occurs => ⟨_, occurs, .many body⟩⟩
  rintro ⟨_, occurs, ⟨⟩⟩
  exact occurs

theorem occurs_transform {function : Value → Value} {body : Parser} :
    Occurs environment part (transform function body) ↔
      part = transform function body ∨ Occurs environment part body := by
  rw [occurs_iff, eq_comm]
  refine or_congr_right ⟨?_, fun occurs => ⟨_, occurs, .transform function body⟩⟩
  rintro ⟨_, occurs, ⟨⟩⟩
  exact occurs

theorem occurs_traced {name : String} {body : Parser} :
    Occurs environment part (traced name body) ↔
      part = traced name body ∨ Occurs environment part body := by
  rw [occurs_iff, eq_comm]
  refine or_congr_right ⟨?_, fun occurs => ⟨_, occurs, .traced name body⟩⟩
  rintro ⟨_, occurs, ⟨⟩⟩
  exact occurs

theorem occurs_observed {tag : String} {body : Parser} :
    Occurs environment part (observed tag body) ↔
      part = observed tag body ∨ Occurs environment part body := by
  rw [occurs_iff, eq_comm]
  refine or_congr_right ⟨?_, fun occurs => ⟨_, occurs, .observed tag body⟩⟩
  rintro ⟨_, occurs, ⟨⟩⟩
  exact occurs

theorem occurs_deferred_error {cell : Nat} {tag : String} {references : List String}
    {fault : Fault} :
    Occurs environment part (deferred cell tag references (.error fault)) ↔
      part = deferred cell tag references (.error fault) := by
  rw [occurs_iff, eq_comm, or_iff_left]
  rintro ⟨_, -, ⟨⟩⟩

theorem occurs_deferred_ok {cell : Nat} {tag : String} {references : List String}
    {body : Parser} :
    Occurs environment part (deferred cell tag references (.ok body)) ↔
      part = deferred cell tag references (.ok body) ∨ Occurs environment part body := by
  rw [occurs_iff, eq_comm]
  refine or_congr_right ⟨?_, fun occurs => ⟨_, occurs, .product cell tag references body⟩⟩
  rintro ⟨_, occurs, ⟨⟩⟩
  exact occurs

theorem occurs_rule {name : String} :
    Occurs environment part (rule name) ↔
      part = rule name ∨
        ∃ body, environment.rules.lookup name = some body ∧ Occurs environment part body := by
  rw [occurs_iff, eq_comm]
  refine or_congr_right ⟨?_, fun ⟨_, found, occurs⟩ => ⟨_, occurs, .rule found⟩⟩
  rintro ⟨_, occurs, isPart⟩
  cases isPart with
  | rule found => exact ⟨_, found, occurs⟩

end Parser
end Descent
