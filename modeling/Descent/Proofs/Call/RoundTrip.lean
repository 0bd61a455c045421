import Descent.Proofs.Call.Nesting
import Descent.Proofs.Call.Written

/-!
# Reading undoes printing

What is printed for a tree is read back as the tree, strictly or not, with every integer replaced
by the nearest number.  Trees of calls and numbers are equal if and only if the same text is
printed for them, so printing what was read gives the text again.
-/

namespace Descent
namespace Call

/-- A tree of calls and floating-point numbers. -/
inductive FloatTree : Value → Prop where
  | number (value : Binary64) : FloatTree (.number value)
  | call (target : String) {arguments : List Value}
      (all : ∀ argument ∈ arguments, FloatTree argument) : FloatTree (.call target arguments)

theorem floatedAll_eq {trees : List Value} (same : ∀ tree ∈ trees, floated tree = tree) :
    floatedAll trees = trees := by
  induction trees with
  | nil => rfl
  | cons tree trees induction =>
      rw [List.forall_mem_cons] at same
      rw [floatedAll, same.1, induction same.2]

/-- A tree without integers has nothing to be replaced. -/
theorem FloatTree.floated_eq {tree : Value} (floats : FloatTree tree) : floated tree = tree := by
  induction floats with
  | number value => rfl
  | call target _ induction => rw [floated, floatedAll_eq induction]

variable {tree : Value} {text : String}

theorem print_floated (tree : Value) : print (floated tree) = print tree :=
  congrArg Prod.fst (visit_floated tree _)

theorem print_unsignedZeros (tree : Value) : print (unsignedZeros tree) = print tree :=
  congrArg Prod.fst (visit_unsignedZeros tree _)

/-- A printed tree has a derivation that is no deeper than the usual limit. -/
theorem exists_derivation_of_print (printed : print tree = .ok text) :
    ∃ derivation : Derivation (.once .expression),
      derivation.text = text.toList ∧
        unsignedZeros derivation.value = unsignedZeros (floated tree) ∧
        isFiniteTree (floated tree) = true ∧ derivation.depth ≤ 64 := by
  have visited : printer.visit tree (Walk.start none ()) =
      (.ok text, (printer.visit tree (Walk.start none ())).2) := Prod.ext printed rfl
  obtain ⟨-, derivation, written⟩ := exists_written tree visited
  have depth_le : (0 : Int) + derivation.depth ≤ max 0 64 := written.depth_le
  exact ⟨derivation, written.text_eq, written.value_eq, written.isFinite, by omega⟩

/-- A reader with the usual limits reads every derivation that is short enough and not too deep. -/
theorem outcome_of_derivation (strict : Bool) {derivation : Derivation (.once .expression)}
    (text_eq : derivation.text = text.toList) (length_le : text.length ≤ 1048576)
    (depth_le : derivation.depth ≤ 64) :
    (Reader.configure strict none none).outcome (Source.ofString text) =
      .ok (.matched derivation.value
        ((Cursor.start (Source.ofString text)).forward text.length)) := by
  have size_eq : (Source.ofString text).size = text.length := String.length_toList
  have attempt := Attempt.ofDerivation derivation [] (beginsIn_nil _)
  rw [List.append_nil, text_eq] at attempt
  have limits : (Reader.configure strict none none).checkLimits (Source.ofString text) =
      .ok () := by
    rw [Reader.checkLimits_eq_ok_iff]
    constructor
    · have small : ¬ (1048576 : Int) < (Source.ofString text).size := by
        rw [size_eq]
        omega
      rw [Reader.isTooLarge, Bool.and_eq_false_iff]
      exact .inr (decide_eq_false small)
    · have shallow : ¬ (64 : Int) < nestingDepth text.toList := by
        rw [nestingDepth_eq_height attempt]
        omega
      exact decide_eq_false shallow
  have chars_eq : (Cursor.start (Source.ofString text)).rest = derivation.text ++ [] :=
    text_eq.symm.trans (List.append_nil _).symm
  have atEnd := (isAtEnd_forward_iff _ chars_eq).mpr rfl
  have length_eq : derivation.text.length = text.length := by rw [text_eq, String.length_toList]
  rw [Reader.outcome_eq limits attempt, Ending.judged, if_neg (by simp [atEnd]), length_eq]

/-- Trees for which the same text is printed are the same but for the signs of zeros. -/
theorem unsignedZeros_eq_of_print {left right : Value} (printed : print left = .ok text)
    (otherPrinted : print right = .ok text) :
    unsignedZeros (floated left) = unsignedZeros (floated right) := by
  obtain ⟨derivation, text_eq, value_eq, -⟩ := exists_derivation_of_print printed
  obtain ⟨other, otherText_eq, otherValue_eq, -⟩ := exists_derivation_of_print otherPrinted
  obtain rfl := Derivation.eq_of_text_eq (text_eq.trans otherText_eq.symm)
  rw [← value_eq, otherValue_eq]

/--
Reading undoes printing: the whole text is taken, and the result is the tree with integers replaced
by numbers.  The text is a canonical form: it is the same for two trees exactly if they are equal.
-/
theorem read_print :
    (∀ (tree : Value) (text : String), print tree = .ok text → text.length ≤ 1048576 →
        ∀ reader ∈ [Reader.standard, Reader.configure true none none],
          ∃ result next,
            reader.read text = .ok result ∧
              reader.outcome (Source.ofString text) = .ok (.matched result next) ∧
              next.offset = text.length ∧ result.same (floated tree) = true ∧
              print result = .ok text) ∧
      ∀ (left right : Value) (leftText rightText : String), FloatTree left → FloatTree right →
        print left = .ok leftText → print right = .ok rightText →
          (leftText = rightText ↔ left.same right = true) := by
  constructor
  · intro tree text printed length_le reader mem
    obtain ⟨derivation, text_eq, value_eq, isFinite, depth_le⟩ := exists_derivation_of_print printed
    have configured : ∃ strict, reader = Reader.configure strict none none := by
      rcases List.mem_cons.mp mem with standard | mem
      · exact ⟨false, standard⟩
      · exact ⟨true, List.mem_singleton.mp mem⟩
    obtain ⟨strict, rfl⟩ := configured
    have answer := outcome_of_derivation strict text_eq length_le depth_le
    refine ⟨derivation.value, _, Reader.read_of_outcome answer, answer, ?_, ?_, ?_⟩
    · have size_eq : (Source.ofString text).size = text.length := String.length_toList
      rw [Cursor.offset_forward, Cursor.start, size_eq, Nat.zero_add, Nat.min_self]
    · have valueIsFinite : isFiniteTree derivation.value = true := by
        rw [← isFiniteTree_unsignedZeros, value_eq, isFiniteTree_unsignedZeros, isFinite]
      exact (same_iff_unsignedZeros _ _ valueIsFinite isFinite).mpr value_eq
    · rw [← print_unsignedZeros, value_eq, print_unsignedZeros, print_floated, printed]
  · intro left right leftText rightText leftFloats rightFloats leftPrinted rightPrinted
    obtain ⟨-, -, -, leftIsFinite, -⟩ := exists_derivation_of_print leftPrinted
    obtain ⟨-, -, -, rightIsFinite, -⟩ := exists_derivation_of_print rightPrinted
    rw [leftFloats.floated_eq] at leftIsFinite
    rw [rightFloats.floated_eq] at rightIsFinite
    rw [same_iff_unsignedZeros left right leftIsFinite rightIsFinite]
    constructor
    · rintro rfl
      have equal := unsignedZeros_eq_of_print leftPrinted rightPrinted
      rwa [leftFloats.floated_eq, rightFloats.floated_eq] at equal
    · intro equal
      have answers : print left = print right := by
        rw [← print_unsignedZeros left, equal, print_unsignedZeros]
      rw [leftPrinted, rightPrinted] at answers
      exact Except.ok.inj answers

theorem print_eq_ok_iff (tree : Value) (text : String) :
    print tree = .ok text ↔ (print tree).toOption = some text := by
  cases print tree <;> simp [Except.toOption]

/-- An integer and a fraction are printed and read back, and both zeros have one text. -/
theorem read_print_small_trees :
    let half := Binary64.finite false 4503599627370496 (-53) (by decide)
    let tree : Value := .call "f" [.integer 2, .number half, .call "g" []]
    let zeros (negative : Bool) : Value := .call "f" [.number (Binary64.zero negative)]
    print tree = .ok "f(2,0.5,g())" ∧
      (∃ result next,
        Reader.standard.read "f(2,0.5,g())" = .ok result ∧
          Reader.standard.outcome (Source.ofString "f(2,0.5,g())") = .ok (.matched result next) ∧
          next.offset = "f(2,0.5,g())".length ∧ result.same (floated tree) = true ∧
          print result = .ok "f(2,0.5,g())") ∧
      print (zeros true) = .ok "f(0)" ∧ print (zeros false) = .ok "f(0)" ∧
      ("f(0)" = "f(0)" ↔ (zeros true).same (zeros false) = true) := by
  intro half tree zeros
  have printed : print tree = .ok "f(2,0.5,g())" := by
    rw [print_eq_ok_iff]
    decide +kernel
  have printedZeros (negative : Bool) : print (zeros negative) = .ok "f(0)" := by
    rw [print_eq_ok_iff]
    cases negative <;> decide +kernel
  have floats (negative : Bool) : FloatTree (zeros negative) :=
    .call "f" (by
      rintro argument mem
      rw [List.mem_singleton.mp mem]
      exact .number _)
  refine ⟨printed, ?_, printedZeros true, printedZeros false, ?_⟩
  · exact read_print.1 tree _ printed (by decide) Reader.standard List.mem_cons_self
  · exact read_print.2 (zeros true) (zeros false) _ _ (floats true) (floats false)
      (printedZeros true) (printedZeros false)

end Call
end Descent
