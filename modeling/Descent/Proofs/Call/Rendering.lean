import Descent.Proofs.Call.Data

/-!
# What is read can be rendered

The expressions that are read have identifiers as targets, numbers that are not undefined, and no
more calls inside one another than the reader allows.  So they always have data.  Their source text
and their JSON text can be refused for one reason only, a literal that is beyond all numbers, and
both are refused for the first such literal.
-/

namespace Descent

/-- Rounding gives a number or an infinity. -/
theorem Binary64.nearest_ne_nan (negative : Bool) (magnitude : Rat) :
    nearest negative magnitude ≠ nan := by
  have parts (significand : Nat) (exponent : Int) :
      ofParts negative significand exponent ≠ nan := by
    rw [ofParts]
    split <;> rintro ⟨⟩
  rw [nearest]
  split
  · rintro ⟨⟩
  · dsimp only
    split
    · exact parts _ _
    · exact parts _ _

namespace Call

/-! ## The expressions that are denoted -/

/-- A tree of calls of identifiers and of numbers none of which is undefined. -/
inductive IsDenoted : Value → Prop where
  | number {value : Binary64} (isDefined : value ≠ .nan) : IsDenoted (.number value)
  | call {target : String} {arguments : List Value}
      (identifier : isIdentifier target.toList = true)
      (all : ∀ argument ∈ arguments, IsDenoted argument) : IsDenoted (.call target arguments)

theorem IsDenoted.isExpression {tree : Value} (denoted : IsDenoted tree) : IsExpression tree := by
  induction denoted with
  | number isDefined => exact .number _
  | call identifier _ induction => exact .call _ induction

theorem isIdentifier_text (name : Identifier) : isIdentifier name.text = true := by
  rw [Identifier.text, isIdentifier, name.isLetter_first, Bool.true_and]
  exact name.all_others

/-- The number of a node. -/
def numberOf? : Int × Value → Option Binary64
  | (_, .number value) => some value
  | _ => none

theorem preorderAll_append (depth : Int) (trees others : List Value) :
    Visitor.preorderAll depth (trees ++ others) =
      Visitor.preorderAll depth trees ++ Visitor.preorderAll depth others := by
  induction trees with
  | nil => rfl
  | cons tree trees induction =>
      rw [List.cons_append, Visitor.preorderAll, Visitor.preorderAll, induction, List.append_assoc]

namespace Derivation

/-- The literals of a derivation, in order of the text. -/
def literals : {phrase : Phrase} → Derivation phrase → List Literal
  | _, identifier _ => []
  | _, numberLiteral literal => [literal]
  | _, trailingArgument argument => argument.literals
  | _, argumentList first others => first.literals ++ others.literals
  | _, call _ arguments => arguments.literals
  | _, ofCall inner => inner.literals
  | _, ofNumber inner => inner.literals
  | _, noArguments => []
  | _, someArguments arguments => arguments.literals
  | _, noMore => []
  | _, more first others => first.literals ++ others.literals

/-- Everything but an identifier denotes calls of identifiers and defined numbers. -/
theorem isDenoted_values : ∀ {phrase : Phrase} (derivation : Derivation phrase),
    phrase ≠ .once .identifier → ∀ value ∈ derivation.values, IsDenoted value
  | _, identifier _, ordinary => absurd rfl ordinary
  | _, numberLiteral _, _ => List.forall_mem_singleton.mpr (.number (Binary64.nearest_ne_nan _ _))
  | _, trailingArgument argument, _ => argument.isDenoted_values (by decide)
  | _, argumentList first others, _ =>
      List.forall_mem_append.mpr
        ⟨first.isDenoted_values (by decide), others.isDenoted_values (by decide)⟩
  | _, call (.identifier name) arguments, _ => by
      have isName : isIdentifier (String.ofList name.text).toList = true := by
        rw [String.toList_ofList]
        exact isIdentifier_text name
      exact List.forall_mem_singleton.mpr (.call isName (arguments.isDenoted_values (by decide)))
  | _, ofCall inner, _ => inner.isDenoted_values (by decide)
  | _, ofNumber inner, _ => inner.isDenoted_values (by decide)
  | _, noArguments, _ => nofun
  | _, someArguments arguments, _ => arguments.isDenoted_values (by decide)
  | _, noMore, _ => nofun
  | _, more first others, _ =>
      List.forall_mem_append.mpr
        ⟨first.isDenoted_values (by decide), others.isDenoted_values (by decide)⟩

theorem isDenoted_value (derivation : Derivation (.once .expression)) :
    IsDenoted derivation.value := by
  have denoted := derivation.isDenoted_values (by decide)
  rw [derivation.values_eq_singleton (by decide), List.forall_mem_singleton] at denoted
  exact denoted

/-- The numbers of what is denoted are the numbers of the literals. -/
theorem numbers_values : ∀ {phrase : Phrase} (derivation : Derivation phrase) (depth : Int),
    (Visitor.preorderAll depth derivation.values).filterMap numberOf? =
      derivation.literals.map Literal.number
  | _, identifier _, _ => rfl
  | _, numberLiteral _, _ => rfl
  | _, trailingArgument argument, depth => argument.numbers_values depth
  | _, argumentList first others, depth => by
      rw [values, literals, preorderAll_append, List.filterMap_append, List.map_append,
        first.numbers_values, others.numbers_values]
  | _, call target arguments, depth => by
      have inner := arguments.numbers_values (depth + 1)
      rw [values, literals, ← inner, Visitor.preorderAll, Visitor.preorder, Visitor.preorderAll,
        List.append_nil, List.filterMap_cons]
      rfl
  | _, ofCall inner, depth => inner.numbers_values depth
  | _, ofNumber inner, depth => inner.numbers_values depth
  | _, noArguments, _ => rfl
  | _, someArguments arguments, depth => arguments.numbers_values depth
  | _, noMore, _ => rfl
  | _, more first others, depth => by
      rw [values, literals, preorderAll_append, List.filterMap_append, List.map_append,
        first.numbers_values, others.numbers_values]

end Derivation

/-- The literal is beyond all numbers. -/
def Literal.Overflows (literal : Literal) : Prop :=
  ∃ negative, literal.number = .infinite negative

theorem Literal.overflows_iff (literal : Literal) :
    literal.Overflows ↔ literal.number.isFinite = false := by
  have isDefined : literal.number ≠ .nan := Binary64.nearest_ne_nan _ _
  rw [Overflows]
  cases number_eq : literal.number with
  | finite => simp [Binary64.isFinite]
  | infinite negative => simp [Binary64.isFinite]
  | nan => exact absurd number_eq isDefined

theorem isSome_nonFinite?_iff (node : Int × Value) :
    (nonFinite? node).isSome ↔
      ∃ number, numberOf? node = some number ∧ number.isFinite = false := by
  obtain ⟨depth, value⟩ := node
  cases value with
  | number value => cases finite : value.isFinite <;> simp [nonFinite?, numberOf?, finite]
  | null | truth | integer | text | tuple | list | record | call => simp [nonFinite?, numberOf?]

/-- A number that is denoted is not finite exactly if its literal is beyond all numbers. -/
theorem Derivation.isSome_nonFinite?_iff (derivation : Derivation (.once .expression)) :
    ((Visitor.preorder 0 derivation.value).findSome? nonFinite?).isSome ↔
      ∃ literal ∈ derivation.literals, literal.Overflows := by
  have numbers := derivation.numbers_values 0
  rw [derivation.values_eq_singleton (by decide), Visitor.preorderAll, Visitor.preorderAll,
    List.append_nil] at numbers
  calc ((Visitor.preorder 0 derivation.value).findSome? nonFinite?).isSome
      ↔ ∃ number ∈ (Visitor.preorder 0 derivation.value).filterMap numberOf?,
          number.isFinite = false := by
        simp only [List.findSome?_isSome_iff, Call.isSome_nonFinite?_iff, List.mem_filterMap]
        grind
    _ ↔ ∃ literal ∈ derivation.literals, literal.Overflows := by
        simp only [numbers, List.mem_map, Literal.overflows_iff]
        grind

/-! ## The faults of the renderings -/

/-- The fault of a number that has no literal. -/
def unliterated (number : Binary64) : Fault :=
  unserializable s!"number {number.text} has no literal form"

theorem mem_preorderAll {depth : Int} {trees : List Value} {node : Int × Value}
    (mem : node ∈ Visitor.preorderAll depth trees) :
    ∃ tree ∈ trees, node ∈ Visitor.preorder depth tree := by
  induction trees with
  | nil => exact absurd mem List.not_mem_nil
  | cons tree trees induction =>
      rw [Visitor.preorderAll, List.mem_append] at mem
      rcases mem with first | others
      · exact ⟨tree, List.mem_cons_self, first⟩
      · obtain ⟨other, otherMem, inner⟩ := induction others
        exact ⟨other, List.mem_cons_of_mem _ otherMem, inner⟩

/-- In what is denoted, within the limit, only numbers that are not finite are refused. -/
theorem IsDenoted.offence_eq {tree : Value} (denoted : IsDenoted tree) {depth limit : Int}
    (room : depth + callDepth tree ≤ limit) :
    ∀ node ∈ Visitor.preorder depth tree,
      Visitor.offence true limit node = (nonFinite? node).map unliterated := by
  induction denoted generalizing depth with
  | @number value _ =>
      rw [Visitor.preorder]
      · refine List.forall_mem_singleton.mpr ?_
        rw [Visitor.offence, nonFinite?]
        cases value.isFinite <;> rfl
      · rintro _ _ ⟨⟩
  | @call target arguments identifier _ induction =>
      rw [callDepth] at room
      rw [Visitor.preorder]
      refine List.forall_mem_cons.mpr ⟨?_, fun node mem => ?_⟩
      · rw [Visitor.offence, if_neg (by omega), identifier]
        rfl
      · obtain ⟨argument, argumentMem, inner⟩ := mem_preorderAll mem
        have le := callDepth_le_of_mem argumentMem
        exact induction argument argumentMem (by omega) node inner

theorem findSome?_congr {α β : Type} {first second : α → Option β} {items : List α}
    (same : ∀ item ∈ items, first item = second item) :
    items.findSome? first = items.findSome? second := by
  induction items with
  | nil => rfl
  | cons item items induction =>
      rw [List.forall_mem_cons] at same
      rw [List.findSome?_cons, List.findSome?_cons, same.1, induction same.2]

/-- The source text of what is denoted is refused for the first number that is not finite. -/
theorem IsDenoted.fault?_print {tree : Value} (denoted : IsDenoted tree)
    (shallow : callDepth tree ≤ 64) :
    Visitor.fault? (print tree) =
      ((Visitor.preorder 0 tree).findSome? nonFinite?).map unliterated := by
  rw [print, Visitor.result, Visitor.printer_computes.fst_visit, Walk.guard_start,
    Visitor.Computation.fault?_answer Visitor.isTotal_printing, List.map_findSome?]
  refine findSome?_congr fun node mem => ?_
  rw [Visitor.offence_printing]
  exact denoted.offence_eq (by simp only [Option.getD_none]; omega) node mem

/-- The JSON text of what is denoted is refused for the first number that is not finite. -/
theorem IsDenoted.fault?_toJson {tree : Value} (denoted : IsDenoted tree)
    (shallow : callDepth tree ≤ 64) (indent : Option Int) :
    Visitor.fault? (toJson tree indent) =
      ((Visitor.preorder 0 tree).findSome? nonFinite?).map unwritableNumber := by
  rw [toJson_eq denoted.isExpression shallow]
  cases (Visitor.preorder 0 tree).findSome? nonFinite? <;> rfl

/-! ## Readers -/

/-- What is read is denoted by the longest derivation, within the depth of the reader. -/
theorem Reader.exists_derivation_of_read {reader : Reader} {text : String} {tree : Value}
    (read : reader.read text = .ok tree) :
    ∃ derivation : Derivation (.once .expression), IsLongest text.toList derivation ∧
      derivation.value = tree ∧ (callDepth tree : Int) ≤ reader.maxDepth := by
  obtain ⟨next, answer⟩ := Reader.exists_outcome_of_read read
  have limits : reader.checkLimits (Source.ofString text) = .ok () := by
    cases checked : reader.checkLimits (Source.ofString text) with
    | ok _ => rfl
    | error fault =>
        rw [Reader.outcome, checked] at answer
        contradiction
  obtain ⟨ending, height, attempt⟩ :=
    Attempt.attempted (.once .expression) (Source.ofString text).chars
  rw [Reader.outcome_eq limits attempt] at answer
  cases ending with
  | broken label taken => simp [Ending.judged] at answer
  | complete derivation =>
      have shallow := (Reader.checkLimits_eq_ok_iff.mp limits).2
      rw [Reader.isTooDeep, decide_eq_false_iff_not, Int.not_lt, nestingDepth_eq_height attempt,
        attempt.height_eq_depth, ← derivation.callDepth_value] at shallow
      rw [Ending.judged] at answer
      split at answer
      · simp at answer
      · obtain ⟨rfl, -⟩ := Outcome.matched.inj (Except.ok.inj answer)
        exact ⟨derivation, attempt.isLongest, rfl, shallow⟩

end Call
end Descent
