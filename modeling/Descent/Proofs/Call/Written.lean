import Descent.Proofs.Call.Derivation
import Descent.Proofs.Call.NumberText

/-!
# Printed trees are derivations

The text that is printed for a tree is derived by the grammar, with the calls and the numbers of the
tree.  Printing leaves its guard as it was and opens no more calls than the guard allows, so the
derivation is no deeper than that.
-/

namespace Descent
namespace Call

/-! ## Derivations of lists -/

namespace Derivation

/-- Further arguments, each behind a comma. -/
def furtherOf : List (Derivation (.once .expression)) → Derivation .trailingArguments
  | [] => .noMore
  | argument :: arguments => .more (.trailingArgument argument) (furtherOf arguments)

/-- The arguments of a call. -/
def argumentsOf : List (Derivation (.once .expression)) → Derivation .optionalArguments
  | [] => .noArguments
  | first :: others => .someArguments (.argumentList first (furtherOf others))

theorem text_furtherOf (first : List Char) (arguments : List (Derivation (.once .expression))) :
    first ++ (furtherOf arguments).text = [','].intercalate (first :: arguments.map text) := by
  induction arguments generalizing first with
  | nil => simp [furtherOf, text]
  | cons argument arguments induction =>
      have others := induction argument.text
      simp only [furtherOf, text, List.cons_append, others, List.map_cons]
      rw [List.intercalate_cons_cons]
      simp

theorem text_argumentsOf (arguments : List (Derivation (.once .expression))) :
    (argumentsOf arguments).text = [','].intercalate (arguments.map text) := by
  cases arguments with
  | nil => rfl
  | cons first others => exact text_furtherOf first.text others

theorem values_furtherOf (arguments : List (Derivation (.once .expression))) :
    (furtherOf arguments).values = arguments.map value := by
  induction arguments with
  | nil => rfl
  | cons argument arguments induction =>
      rw [furtherOf, values, values, induction, argument.values_eq_singleton (by decide)]
      rfl

theorem values_argumentsOf (arguments : List (Derivation (.once .expression))) :
    (argumentsOf arguments).values = arguments.map value := by
  cases arguments with
  | nil => rfl
  | cons first others =>
      rw [argumentsOf, values, values, values_furtherOf, first.values_eq_singleton (by decide)]
      rfl

theorem depth_furtherOf_le {arguments : List (Derivation (.once .expression))} {bound : Nat}
    (le : ∀ argument ∈ arguments, argument.depth ≤ bound) :
    (furtherOf arguments).depth ≤ bound := by
  induction arguments with
  | nil => exact Nat.zero_le _
  | cons argument arguments induction =>
      rw [List.forall_mem_cons] at le
      exact Nat.max_le.mpr ⟨le.1, induction le.2⟩

theorem depth_argumentsOf_le {arguments : List (Derivation (.once .expression))} {bound : Nat}
    (le : ∀ argument ∈ arguments, argument.depth ≤ bound) :
    (argumentsOf arguments).depth ≤ bound := by
  cases arguments with
  | nil => exact Nat.zero_le _
  | cons first others =>
      rw [List.forall_mem_cons] at le
      exact Nat.max_le.mpr ⟨le.1, depth_furtherOf_le le.2⟩

end Derivation

/-! ## Trees up to the kind of their numbers -/

mutual

/-- A tree with every integer replaced by the nearest number, if that is no infinity. -/
def floated : Value → Value
  | .integer value =>
      match Binary64.ofInt? value with
      | some number => .number number
      | none => .integer value
  | .call target arguments => .call target (floatedAll arguments)
  | other => other

/-- Trees with every integer replaced. -/
def floatedAll : List Value → List Value
  | [] => []
  | value :: values => floated value :: floatedAll values

end

mutual

/-- A tree with the plus sign at every zero. -/
def unsignedZeros : Value → Value
  | .number value => .number value.unsignedZero
  | .call target arguments => .call target (unsignedZerosAll arguments)
  | other => other

/-- Trees with the plus sign at every zero. -/
def unsignedZerosAll : List Value → List Value
  | [] => []
  | value :: values => unsignedZeros value :: unsignedZerosAll values

end

mutual

/-- A tree of calls and finite floating-point numbers. -/
def isFiniteTree : Value → Bool
  | .number value => value.isFinite
  | .call _ arguments => areFiniteTrees arguments
  | _ => false

/-- Trees of calls and finite floating-point numbers. -/
def areFiniteTrees : List Value → Bool
  | [] => true
  | value :: values => isFiniteTree value && areFiniteTrees values

end

mutual

theorem isFiniteTree_unsignedZeros : ∀ tree : Value,
    isFiniteTree (unsignedZeros tree) = isFiniteTree tree
  | .number value => value.isFinite_unsignedZero
  | .call _ arguments => areFiniteTrees_unsignedZerosAll arguments
  | .null | .truth _ | .integer _ | .text _ | .tuple _ | .list _ | .record _ _ => rfl

theorem areFiniteTrees_unsignedZerosAll : ∀ trees : List Value,
    areFiniteTrees (unsignedZerosAll trees) = areFiniteTrees trees
  | [] => rfl
  | tree :: trees => by
      rw [unsignedZerosAll, areFiniteTrees, areFiniteTrees, isFiniteTree_unsignedZeros tree,
        areFiniteTrees_unsignedZerosAll trees]

end

mutual

/-- Trees of finite numbers are equal if they are the same but for the signs of zeros. -/
theorem same_iff_unsignedZeros : ∀ left right : Value, isFiniteTree left = true →
    isFiniteTree right = true →
      (left.same right = true ↔ unsignedZeros left = unsignedZeros right)
  | .number left, .number right, left_finite, right_finite => by
      simp only [Value.same, unsignedZeros, Value.number.injEq]
      exact Binary64.same_iff_unsignedZero left_finite right_finite
  | .call target arguments, .call otherTarget otherArguments, left_finite, right_finite => by
      simp only [Value.same, unsignedZeros, Value.call.injEq, Bool.and_eq_true, beq_iff_eq]
      rw [sameItems_iff_unsignedZerosAll arguments otherArguments left_finite right_finite]
  | .number _, .call _ _, _, _ => by simp [Value.same, unsignedZeros, Value.asInteger?]
  | .call _ _, .number _, _, _ => by simp [Value.same, unsignedZeros]

theorem sameItems_iff_unsignedZerosAll : ∀ left right : List Value, areFiniteTrees left = true →
    areFiniteTrees right = true →
      (Value.sameItems left right = true ↔ unsignedZerosAll left = unsignedZerosAll right)
  | [], [], _, _ => by simp [Value.sameItems, unsignedZerosAll]
  | [], _ :: _, _, _ => by simp [Value.sameItems, unsignedZerosAll]
  | _ :: _, [], _, _ => by simp [Value.sameItems, unsignedZerosAll]
  | left :: lefts, right :: rights, left_finite, right_finite => by
      rw [areFiniteTrees, Bool.and_eq_true] at left_finite right_finite
      simp only [Value.sameItems, unsignedZerosAll, List.cons.injEq, Bool.and_eq_true]
      rw [same_iff_unsignedZeros left right left_finite.1 right_finite.1,
        sameItems_iff_unsignedZerosAll lefts rights left_finite.2 right_finite.2]

end

/-! ## What printing depends on -/

mutual

/-- An integer is printed as the nearest number. -/
theorem visit_floated : ∀ (tree : Value) (walk : Walk Unit),
    printer.visit (floated tree) walk = printer.visit tree walk
  | .integer value, walk => by
      rw [floated]
      split
      · rename_i number found
        simp only [Visitor.visit, found]
      · rfl
  | .call target arguments, walk => by
      simp only [floated, Visitor.visit, visitAll_floatedAll arguments]
      rfl
  | .null, _ | .truth _, _ | .number _, _ | .text _, _ | .tuple _, _ | .list _, _
  | .record _ _, _ => rfl

theorem visitAll_floatedAll {hear : List String → Unit → Unit} :
    ∀ (trees : List Value) (done : List String) (walk : Walk Unit),
      printer.visitAll hear done (floatedAll trees) walk = printer.visitAll hear done trees walk
  | [], _, _ => rfl
  | tree :: trees, done, walk => by
      simp only [floatedAll, Visitor.visitAll, visit_floated tree,
        visitAll_floatedAll trees]

end

mutual

/-- The sign of a zero is not printed. -/
theorem visit_unsignedZeros : ∀ (tree : Value) (walk : Walk Unit),
    printer.visit (unsignedZeros tree) walk = printer.visit tree walk
  | .number value, walk => by
      simp only [unsignedZeros, Visitor.visit, Visitor.visitNumber, printer,
        numberText_unsignedZero]
  | .call target arguments, walk => by
      simp only [unsignedZeros, Visitor.visit, visitAll_unsignedZerosAll arguments]
      rfl
  | .null, _ | .truth _, _ | .integer _, _ | .text _, _ | .tuple _, _ | .list _, _
  | .record _ _, _ => rfl

theorem visitAll_unsignedZerosAll {hear : List String → Unit → Unit} :
    ∀ (trees : List Value) (done : List String) (walk : Walk Unit),
      printer.visitAll hear done (unsignedZerosAll trees) walk =
        printer.visitAll hear done trees walk
  | [], _, _ => rfl
  | tree :: trees, done, walk => by
      simp only [unsignedZerosAll, Visitor.visitAll, visit_unsignedZeros tree,
        visitAll_unsignedZerosAll trees]

end

/-! ## The derivation of a printed tree -/

/-- The identifier of a target that is one. -/
theorem exists_identifier {characters : List Char} (valid : isIdentifier characters = true) :
    ∃ name : Identifier, name.text = characters := by
  cases characters with
  | nil => contradiction
  | cons first others =>
      rw [isIdentifier, Bool.and_eq_true] at valid
      exact ⟨⟨first, others, valid.1, valid.2⟩, rfl⟩

/-- A derivation is the written form of a tree, within what a guard allows. -/
structure Written (guard : Guard) (text : String) (tree : Value)
    (derivation : Derivation (.once .expression)) : Prop where
  text_eq : derivation.text = text.toList
  value_eq : unsignedZeros derivation.value = unsignedZeros (floated tree)
  isFinite : isFiniteTree (floated tree) = true
  depth_le : guard.depth + derivation.depth ≤ max guard.depth guard.limit

/-- Derivations are the written forms of some trees, within what a guard allows. -/
structure AllWritten (guard : Guard) (texts : List String) (trees : List Value)
    (derivations : List (Derivation (.once .expression))) : Prop where
  text_eq : derivations.map Derivation.text = texts.map String.toList
  value_eq : unsignedZerosAll (derivations.map Derivation.value) =
    unsignedZerosAll (floatedAll trees)
  areFinite : areFiniteTrees (floatedAll trees) = true
  depth_le : ∀ derivation ∈ derivations,
    guard.depth + derivation.depth ≤ max guard.depth guard.limit

/-- A number is written as a literal. -/
theorem exists_written_number {number : Binary64} {guard : Guard} {text : String}
    (printed : numberText number = .ok text) :
    ∃ derivation, Written guard text (.number number) derivation := by
  rw [numberText] at printed
  split at printed
  · rename_i characters found
    obtain rfl := Except.ok.inj printed
    obtain ⟨literal, text_eq, number_eq⟩ := exists_literal_of_literalText? found
    refine ⟨.ofNumber (.numberLiteral literal), ?_, ?_, isFinite_of_literalText? found, ?_⟩
    · rw [String.toList_ofList]
      exact text_eq
    · exact congrArg Value.number number_eq
    · simp [Derivation.depth]
  · contradiction

theorem toList_callText (target : String) (texts : List String) :
    (callText target texts).toList =
      target.toList ++ '(' :: ([','].intercalate (texts.map String.toList) ++ [')']) := by
  simp [callText, String.toList_intercalate]

/-- A call is written with its arguments, one level inside the guard. -/
theorem exists_written_call {guard inside : Guard} {target : String} {texts : List String}
    {trees : List Value} {derivations : List (Derivation (.once .expression))}
    (entered : guard.enter = .ok inside) (valid : isIdentifier target.toList = true)
    (written : AllWritten inside texts trees derivations) :
    ∃ derivation, Written guard (callText target texts) (.call target trees) derivation := by
  obtain ⟨name, name_eq⟩ := exists_identifier valid
  obtain ⟨room, rfl⟩ := Guard.eq_of_enter entered
  refine ⟨.ofCall (.call (.identifier name) (.argumentsOf derivations)), ?_, ?_,
    written.areFinite, ?_⟩
  · rw [toList_callText, ← written.text_eq, ← Derivation.text_argumentsOf, ← name_eq]
    rfl
  · have value_eq : Derivation.value
        (.ofCall (.call (.identifier name) (.argumentsOf derivations))) =
          .call (String.ofList name.text) (derivations.map Derivation.value) :=
      congrArg (Value.call _) (Derivation.values_argumentsOf derivations)
    rw [value_eq, name_eq, String.ofList_toList, unsignedZeros, written.value_eq, floated,
      unsignedZeros]
  · have inner : (Derivation.argumentsOf derivations).depth ≤
        (guard.limit - guard.depth - 1).toNat := by
      apply Derivation.depth_argumentsOf_le
      intro derivation mem
      have depth_le : guard.depth + 1 + derivation.depth ≤ max (guard.depth + 1) guard.limit :=
        written.depth_le derivation mem
      omega
    simp only [Derivation.depth]
    push_cast
    omega

theorem exists_written_visitNumber {number : Binary64} {walk after : Walk Unit} {text : String}
    (printed : printer.visitNumber number walk = (.ok text, after)) :
    after = walk ∧ ∃ derivation, Written walk.guard text (.number number) derivation := by
  simp only [Visitor.visitNumber, printer] at printed
  cases found : numberText number with
  | error fault => simp [found, Except.map, Visitor.finish] at printed
  | ok literal =>
      simp only [found, Except.map, Visitor.finish, Prod.mk.injEq, Except.ok.injEq] at printed
      obtain ⟨rfl, rfl⟩ := printed
      exact ⟨rfl, exists_written_number found⟩

theorem isIdentifier_of_checkTarget {target : String} {result : Unit}
    (checked : checkTarget target = .ok result) : isIdentifier target.toList = true := by
  rw [checkTarget] at checked
  split at checked
  · assumption
  · contradiction

theorem closed_of_enter {walk : Walk Unit} {inside : Guard} {memory : Unit}
    (entered : walk.guard.enter = .ok inside) : Walk.closed ⟨inside, memory⟩ = walk := by
  rw [Walk.closed, Guard.leave_of_enter entered]

mutual

/-- A printed tree is written as a derivation, and the state of the printer is what it was. -/
theorem exists_written : ∀ (tree : Value) {walk after : Walk Unit} {text : String},
    printer.visit tree walk = (.ok text, after) →
      after = walk ∧ ∃ derivation, Written walk.guard text tree derivation
  | .number value, walk, after, text, printed => by
      rw [Visitor.visit] at printed
      exact exists_written_visitNumber printed
  | .integer value, walk, after, text, printed => by
      rw [Visitor.visit] at printed
      split at printed
      · simp at printed
      · rename_i number found
        obtain ⟨rfl, derivation, written⟩ := exists_written_visitNumber printed
        have floated_eq : floated (.integer value) = floated (.number number) := by
          simp only [floated, found]
        exact ⟨rfl, derivation, written.text_eq, by rw [written.value_eq, floated_eq],
          by rw [floated_eq, written.isFinite], written.depth_le⟩
  | .call target arguments, walk, after, text, printed => by
      rw [Visitor.visit] at printed
      split at printed
      · simp at printed
      · rename_i inside entered
        split at printed
        · simp at printed
        · rename_i memory arrived
          split at printed
          · simp at printed
          · rename_i texts last visited
            obtain ⟨rfl, printedTexts, derivations, rfl, written⟩ :=
              exists_allWritten arguments visited
            obtain ⟨text_eq, rfl⟩ := Prod.mk.inj printed
            obtain rfl := Except.ok.inj text_eq
            exact ⟨closed_of_enter entered,
              exists_written_call entered (isIdentifier_of_checkTarget arrived) written⟩
  | .null, _, _, _, printed | .truth _, _, _, _, printed | .text _, _, _, _, printed
  | .tuple _, _, _, _, printed | .list _, _, _, _, printed | .record _ _, _, _, _, printed => by
      simp [Visitor.visit] at printed

theorem exists_allWritten {hear : List String → Unit → Unit} : ∀ (trees : List Value)
    {done texts : List String} {walk after : Walk Unit},
    printer.visitAll hear done trees walk = (.ok texts, after) →
      after = walk ∧ ∃ (printedTexts : List String) (derivations : _),
        texts = done.reverse ++ printedTexts ∧
          AllWritten walk.guard printedTexts trees derivations
  | [], done, texts, walk, after, printed => by
      simp only [Visitor.visitAll, Prod.mk.injEq, Except.ok.injEq] at printed
      obtain ⟨rfl, rfl⟩ := printed
      exact ⟨rfl, [], [], by simp, rfl, rfl, rfl, nofun⟩
  | tree :: trees, done, texts, walk, after, printed => by
      rw [Visitor.visitAll] at printed
      split at printed
      · simp at printed
      · rename_i text next visited
        obtain ⟨rfl, derivation, written⟩ := exists_written tree visited
        obtain ⟨rfl, others, derivations, rfl, othersWritten⟩ := exists_allWritten trees printed
        refine ⟨rfl, text :: others, derivation :: derivations, by simp, ?_, ?_, ?_, ?_⟩
        · rw [List.map_cons, List.map_cons, written.text_eq, othersWritten.text_eq]
        · rw [List.map_cons, unsignedZerosAll, floatedAll, unsignedZerosAll, written.value_eq,
            othersWritten.value_eq]
        · rw [floatedAll, areFiniteTrees, written.isFinite, othersWritten.areFinite, Bool.and_self]
        · exact List.forall_mem_cons.mpr ⟨written.depth_le, othersWritten.depth_le⟩

end

end Call
end Descent
