import Descent.Proofs.Batch.Report
import Descent.Proofs.Call.RoundTrip

/-!
# The renderings agree

Whatever a reader returns can be rendered, unless a literal is beyond all numbers, and then neither
as source text nor as JSON text.  So batches that differ in the rendering alone fail for the same
inputs.
-/

namespace Descent

/-- An answer is a fault exactly if it is not a result. -/
theorem Visitor.isSome_fault?_iff {β : Type} (answer : Except Fault β) :
    (Visitor.fault? answer).isSome ↔ ∃ fault, answer = .error fault := by
  cases answer <;> simp [Visitor.fault?]

theorem Visitor.isNone_fault? {β : Type} (answer : Except Fault β) :
    (Visitor.fault? answer).isNone = answer.isOk := by
  cases answer <;> rfl

namespace Call

variable {tree : Value}

/-- The renderings of what is denoted fail together, in every indentation. -/
theorem IsDenoted.isOk_print (denoted : IsDenoted tree) (shallow : callDepth tree ≤ 64)
    (indent : Option Int) : (print tree).isOk = (toJson tree indent).isOk := by
  rw [← Visitor.isNone_fault?, ← Visitor.isNone_fault?, denoted.fault?_print shallow,
    denoted.fault?_toJson shallow, Option.isNone_map, Option.isNone_map]

/-- The only faults of a rendering are those of a number without a written form. -/
theorem exists_diagnostic_of_map {answer : Except Fault String} {number? : Option Binary64}
    {wording : Binary64 → String}
    (fault_eq : Visitor.fault? answer = number?.map fun number => unserializable (wording number))
    {fault : Fault} (refused : answer = .error fault) :
    ∃ diagnostic, fault = .unserializable diagnostic := by
  rw [refused] at fault_eq
  obtain ⟨number, -, rfl⟩ := Option.map_eq_some_iff.mp fault_eq.symm
  exact ⟨_, rfl⟩

end Call

namespace Batch

/-- The options with another rendering. -/
def Options.rendered (options : Options) (rendering : Rendering) : Options :=
  { options with rendering := rendering }

/-- The rendering makes no difference to which inputs fail. -/
theorem Options.fails_rendered (options : Options) (rendering other : Rendering) (text : String) :
    (options.rendered rendering).fails text = (options.rendered other).fails text := by
  have agree : (options.rendered .source).fails text = (options.rendered .json).fails text := by
    rw [Options.fails, Options.fails, Options.answer, Options.answer]
    have reader_eq : (options.rendered .source).reader = (options.rendered .json).reader := rfl
    rw [reader_eq]
    cases read : (options.rendered .json).reader.read text with
    | error fault => rfl
    | ok tree =>
        obtain ⟨denoted, shallow⟩ := (options.rendered .json).isDenoted_of_read read
        exact congrArg not (denoted.isOk_print shallow (some 2))
  cases rendering <;> cases other <;> first | rfl | exact agree | exact agree.symm

/--
What is read is a call of identifiers or a number that is not undefined, no deeper than the reader
allows.  It always has data; it has no source text, or no JSON text in any indentation, exactly if
one of its literals is beyond all numbers, and no other fault is possible.  So the status of a batch
and the inputs that fail do not depend on the rendering.
-/
theorem renderings_agree :
    (∀ (reader : Call.Reader) (text : String) (tree : Value), reader.maxDepth ≤ 64 →
        reader.read text = .ok tree →
          Call.IsDenoted tree ∧ (Call.callDepth tree : Int) ≤ reader.maxDepth ∧
            (∃ data, Call.toData tree = .ok data) ∧
            (∀ fault, Call.print tree = .error fault →
              ∃ diagnostic, fault = .unserializable diagnostic) ∧
            (∀ indent fault, Call.toJson tree indent = .error fault →
              ∃ diagnostic, fault = .unserializable diagnostic) ∧
            ∃ derivation : Call.Derivation (.once .expression),
              Call.IsLongest text.toList derivation ∧ derivation.value = tree ∧
                ((∃ fault, Call.print tree = .error fault) ↔
                  ∃ literal ∈ derivation.literals, literal.Overflows) ∧
                ∀ indent, (∃ fault, Call.toJson tree indent = .error fault) ↔
                  ∃ literal ∈ derivation.literals, literal.Overflows) ∧
      ∀ (options : Options) (level : Level) (inputs : List String),
        let source := options.rendered .source
        let json := options.rendered .json
        (source.report level inputs).status = (json.report level inputs).status ∧
          ∀ text ∈ inputs, ∃ piece other, source.piece text = .ok piece ∧
            json.piece text = .ok other ∧ piece.failed = other.failed := by
  constructor
  · intro reader text tree limit read
    obtain ⟨derivation, isLongest, rfl, depth_le⟩ := Call.Reader.exists_derivation_of_read read
    have denoted := derivation.isDenoted_value
    have shallow : Call.callDepth derivation.value ≤ 64 := by omega
    have printed := denoted.fault?_print shallow
    have written := denoted.fault?_toJson shallow
    refine ⟨denoted, depth_le, ⟨_, Call.toData_eq denoted.isExpression shallow⟩, ?_, ?_,
      derivation, isLongest, rfl, ?_, ?_⟩
    · exact fun fault => Call.exists_diagnostic_of_map printed
    · exact fun indent fault => Call.exists_diagnostic_of_map (written indent)
    · rw [← Visitor.isSome_fault?_iff, printed, Option.isSome_map,
        derivation.isSome_nonFinite?_iff]
    · intro indent
      rw [← Visitor.isSome_fault?_iff, written, Option.isSome_map,
        derivation.isSome_nonFinite?_iff]
  · intro options level inputs source json
    have fails_eq : source.fails = json.fails :=
      funext fun text => options.fails_rendered .source .json text
    refine ⟨by rw [source.status_report, json.status_report, fails_eq], fun text _ => ?_⟩
    exact ⟨_, _, source.piece_eq text, json.piece_eq text, congrFun fails_eq text⟩

/-- A literal of four hundred digits is read, and refused in both renderings. -/
theorem renderings_agree_beyond_all_numbers :
    let text := String.ofList (List.replicate 400 '9')
    let reader := Call.Reader.configure true none none
    (∃ tree, reader.read text = .ok tree ∧ Call.IsDenoted tree ∧
        (∃ fault, Call.print tree = .error fault) ∧
        ∀ indent, ∃ fault, Call.toJson tree indent = .error fault) ∧
      ((Options.initial.rendered .source).report .debug ["f(1)", text]).status =
        ((Options.initial.rendered .json).report .debug ["f(1)", text]).status := by
  intro text reader
  refine ⟨?_, (renderings_agree.2 Options.initial .debug ["f(1)", text]).1⟩
  have nonempty (count : Nat) : List.replicate (count + 1) '9' ≠ [] := List.cons_ne_nil _ _
  have all (count : Nat) : (List.replicate count '9').all isDigit = true := by simp [isDigit]
  let literal : Call.Literal :=
    .ofDigits false (List.replicate 400 '9') (nonempty 399) (all 400)
  let derivation : Call.Derivation (.once .expression) := .ofNumber (.numberLiteral literal)
  have text_eq : derivation.text = text.toList := by
    rw [String.toList_ofList]
    exact Call.Literal.text_ofDigits false _ _ _
  have overflows : literal.Overflows := by
    rw [literal.overflows_iff, Call.Literal.number_ofDigits]
    decide +kernel
  have length_le : text.length ≤ 1048576 := by
    rw [← String.length_toList, String.toList_ofList, List.length_replicate]
    decide
  have read : reader.read text = .ok derivation.value :=
    Call.Reader.read_of_outcome
      (Call.outcome_of_derivation true text_eq length_le (Nat.zero_le _))
  obtain ⟨denoted, -, -, -, -, other, isLongest, -, printed, written⟩ :=
    renderings_agree.1 reader text derivation.value (by decide) read
  -- Both derivations are of the whole text, so they are the same.
  have length_eq : other.text.length = text.toList.length :=
    Nat.le_antisymm isLongest.isPrefix.length_le
      (text_eq ▸ isLongest.length_le derivation (text_eq ▸ List.prefix_rfl))
  have same : derivation = other := isLongest.unique derivation
    (text_eq.trans (isLongest.isPrefix.eq_of_length length_eq).symm)
  have found : ∃ literal ∈ other.literals, literal.Overflows :=
    ⟨literal, same ▸ List.mem_singleton_self _, overflows⟩
  exact ⟨derivation.value, read, denoted, printed.mpr found, fun indent => (written indent).mpr found⟩

end Batch
end Descent
