import Descent.Proofs.Call.Nesting
import Descent.Proofs.Json.Decoding
import Descent.Proofs.Walk.FirstOffender

/-!
# The JSON text of an expression

An expression that is not nested too deeply has data, and its JSON text is read back as that data
whatever the indentation, unless it has a number that is infinite or undefined.  Then the first such
number is refused.
-/

namespace Descent
namespace Call

/-- A tree of calls and of numbers that have a floating-point value. -/
inductive IsExpression : Value → Prop where
  | number (value : Binary64) : IsExpression (.number value)
  | integer {value : Int} {number : Binary64} (converted : Binary64.ofInt? value = some number) :
      IsExpression (.integer value)
  | call (target : String) {arguments : List Value}
      (all : ∀ argument ∈ arguments, IsExpression argument) : IsExpression (.call target arguments)

mutual

/-- The data of an expression. -/
def dataOf : Value → Value
  | .call target arguments =>
      .record ["target", "args"] [.text target, .list (dataOfAll arguments)]
  | .integer value =>
      match Binary64.ofInt? value with
      | some number => .number number
      | none => .integer value
  | other => other

/-- The data of some expressions. -/
def dataOfAll : List Value → List Value
  | [] => []
  | tree :: trees => dataOf tree :: dataOfAll trees

end

/-- The number of a node, if it is infinite or undefined. -/
def nonFinite? : Int × Value → Option Binary64
  | (_, .number value) => if value.isFinite then none else some value
  | _ => none

/-! ## An expression has data -/

/-- The computation of data. -/
def recording : Visitor.Computation Value :=
  .pure (fun target _ results => .record ["target", "args"] [.text target, .list results]) .number

theorem answers_recording {guard : Guard} {trees : List Value}
    (all : ∀ tree ∈ trees, recording.answer guard tree = .ok (dataOf tree)) :
    recording.answers guard trees = .ok (dataOfAll trees) := by
  induction trees with
  | nil => rfl
  | cons tree trees induction =>
      rw [List.forall_mem_cons] at all
      rw [Visitor.Computation.answers, all.1, induction all.2]
      rfl

theorem callDepth_le_of_mem {tree : Value} {trees : List Value} (mem : tree ∈ trees) :
    callDepth tree ≤ callDepthAll trees := by
  induction trees with
  | nil => exact absurd mem List.not_mem_nil
  | cons first trees induction =>
      rw [callDepthAll]
      rcases List.mem_cons.mp mem with rfl | mem
      · exact Nat.le_max_left _ _
      · exact Nat.le_trans (induction mem) (Nat.le_max_right _ _)

theorem answer_recording {tree : Value} (expression : IsExpression tree) {guard : Guard}
    (room : guard.depth + callDepth tree ≤ guard.limit) :
    recording.answer guard tree = .ok (dataOf tree) := by
  induction expression generalizing guard with
  | number value => rfl
  | integer converted =>
      rw [Visitor.Computation.answer, dataOf, converted]
      rfl
  | @call target arguments _ induction =>
      rw [callDepth] at room
      have enters : guard.enter = .ok ⟨guard.limit, guard.depth + 1⟩ :=
        Guard.enter_of_lt (by omega)
      have inside : ∀ argument ∈ arguments,
          recording.answer ⟨guard.limit, guard.depth + 1⟩ argument = .ok (dataOf argument) := by
        intro argument mem
        have le := callDepth_le_of_mem mem
        exact induction argument mem (by dsimp only; omega)
      have results := answers_recording inside
      rw [Visitor.Computation.answer, enters, dataOf]
      simp only [bind, Except.bind, results]
      rfl

/-- An expression that is not nested too deeply has data. -/
theorem toData_eq {tree : Value} (expression : IsExpression tree) (shallow : callDepth tree ≤ 64) :
    toData tree = .ok (dataOf tree) := by
  rw [toData, Visitor.result, Visitor.recorder_computes.fst_visit, Walk.guard_start]
  refine answer_recording expression ?_
  simp only [Option.getD_none]
  omega

/-! ## Its text -/

theorem firstUnwritableOf?_dataOfAll {trees : List Value} {depth : Int}
    (all : ∀ tree ∈ trees, Json.firstUnwritable? (dataOf tree) =
      (Visitor.preorder depth tree).findSome? nonFinite?) :
    Json.firstUnwritableOf? (dataOfAll trees) =
      (Visitor.preorderAll depth trees).findSome? nonFinite? := by
  induction trees with
  | nil => rfl
  | cons tree trees induction =>
      rw [List.forall_mem_cons] at all
      rw [dataOfAll, Json.firstUnwritableOf?, Visitor.preorderAll, List.findSome?_append, ← all.1,
        ← induction all.2]
      cases Json.firstUnwritable? (dataOf tree) <;> rfl

/-- The first number that cannot be written is the first one of the expression. -/
theorem firstUnwritable?_dataOf {tree : Value} (expression : IsExpression tree) (depth : Int) :
    Json.firstUnwritable? (dataOf tree) = (Visitor.preorder depth tree).findSome? nonFinite? := by
  induction expression generalizing depth with
  | number value =>
      rw [dataOf, Visitor.preorder, List.findSome?_singleton]
      · rfl
      all_goals exact nofun
  | integer converted =>
      rw [dataOf, converted]
      exact if_pos (Visitor.isFinite_of_ofInt? converted)
  | @call target arguments _ induction =>
      have inner := firstUnwritableOf?_dataOfAll fun argument mem =>
        induction argument mem (depth + 1)
      rw [dataOf, Visitor.preorder, List.findSome?_cons]
      show Json.firstUnwritableOf? [.text target, .list (dataOfAll arguments)] =
        (Visitor.preorderAll (depth + 1) arguments).findSome? nonFinite?
      rw [← inner]
      simp only [Json.firstUnwritableOf?, Json.firstUnwritable?]
      cases Json.firstUnwritableOf? (dataOfAll arguments) <;> rfl

theorem isData_dataOfAll {trees : List Value}
    (all : ∀ tree ∈ trees, Json.firstUnwritable? (dataOf tree) = none →
      Json.IsData Json.readNumber (dataOf tree))
    (writable : Json.firstUnwritableOf? (dataOfAll trees) = none) :
    ∀ data ∈ dataOfAll trees, Json.IsData Json.readNumber data := by
  induction trees with
  | nil => exact nofun
  | cons tree trees induction =>
      rw [List.forall_mem_cons] at all
      rw [dataOfAll, Json.firstUnwritableOf?] at writable
      rw [dataOfAll, List.forall_mem_cons]
      split at writable
      · contradiction
      · rename_i first
        exact ⟨all.1 first, induction all.2 writable⟩

/-- The data of an expression with finite numbers is the same when it is read from text. -/
theorem isData_dataOf {tree : Value} (expression : IsExpression tree)
    (writable : Json.firstUnwritable? (dataOf tree) = none) :
    Json.IsData Json.readNumber (dataOf tree) := by
  induction expression with
  | number value =>
      have isFinite : value.isFinite = true := by
        by_contra infinite
        rw [dataOf, Json.firstUnwritable?, if_neg infinite] at writable
        · contradiction
        all_goals exact nofun
      exact .number isFinite (Json.readNumber_plainText isFinite)
  | integer converted =>
      have isFinite := Visitor.isFinite_of_ofInt? converted
      rw [dataOf, converted]
      exact .number isFinite (Json.readNumber_plainText isFinite)
  | @call target arguments _ induction =>
      rw [dataOf] at writable ⊢
      simp only [Json.firstUnwritable?, Json.firstUnwritableOf?] at writable
      have inner : Json.firstUnwritableOf? (dataOfAll arguments) = none := by
        cases found : Json.firstUnwritableOf? (dataOfAll arguments) with
        | none => rfl
        | some number =>
            rw [found] at writable
            contradiction
      refine .record rfl (List.forall_mem_cons.mpr ⟨.text target, ?_⟩)
      exact List.forall_mem_singleton.mpr (.list (isData_dataOfAll induction inner))

theorem toJson_eq {tree : Value} (expression : IsExpression tree) (shallow : callDepth tree ≤ 64)
    (indent : Option Int) :
    toJson tree indent =
      match (Visitor.preorder 0 tree).findSome? nonFinite? with
      | some number => .error (unwritableNumber number)
      | none => .ok (Json.text (jsonStyle indent) (dataOf tree)) := by
  have unwritable := firstUnwritable?_dataOf expression 0
  cases found : (Visitor.preorder 0 tree).findSome? nonFinite? with
  | none => simp only [toJson, toData_eq expression shallow, unwritable, found]
  | some number => simp only [toJson, toData_eq expression shallow, unwritable, found]

/--
An expression that is not nested too deeply has data.  If all its numbers are finite, it has for
every indentation a text, all of ASCII characters, that is read back as the data; these texts are the
same but for blanks outside of strings, and the one without an indentation is a single line.  If not,
the first number that is not is refused for every indentation.
-/
theorem toJson_reads_back (tree : Value) (expression : IsExpression tree)
    (shallow : callDepth tree ≤ 64) :
    ∃ data, toData tree = .ok data ∧
      ((∀ node ∈ Visitor.preorder 0 tree, nonFinite? node = none) → ∀ indent, ∃ text,
        toJson tree indent = .ok text ∧ (∀ character ∈ text.toList, character.toNat < 128) ∧
          Json.decode Json.readNumber text.toList = some data ∧
          (indent = none → '\n' ∉ text.toList) ∧
          ∀ other otherText, toJson tree other = .ok otherText →
            Json.squeeze otherText.toList = Json.squeeze text.toList) ∧
      ∀ earlier node later number, Visitor.preorder 0 tree = earlier ++ node :: later →
        nonFinite? node = some number → (∀ other ∈ earlier, nonFinite? other = none) →
          ∀ indent, toJson tree indent = .error (unwritableNumber number) := by
  refine ⟨dataOf tree, toData_eq expression shallow, ?_, ?_⟩
  · intro finite indent
    have none : (Visitor.preorder 0 tree).findSome? nonFinite? = none :=
      List.findSome?_eq_none_iff.mpr finite
    have writable : Json.firstUnwritable? (dataOf tree) = .none := by
      rw [firstUnwritable?_dataOf expression 0, none]
    have written (indent : Option Int) :
        toJson tree indent = .ok (Json.text (jsonStyle indent) (dataOf tree)) := by
      rw [toJson_eq expression shallow, none]
    refine ⟨_, written indent, Json.isAscii_of_mem_text writable rfl,
      (isData_dataOf expression writable).decode_text _, ?_, ?_⟩
    · rintro rfl
      exact Json.newline_notMem_text writable rfl
    · intro other otherText otherWritten
      have words := Json.writable_words writable
      rw [written other] at otherWritten
      rw [← Except.ok.inj otherWritten, (Json.spaced_text _ _).squeeze_eq words,
        (Json.spaced_text _ _).squeeze_eq words]
      rfl
  · intro earlier node later number split found first indent
    have first_eq : (Visitor.preorder 0 tree).findSome? nonFinite? = some number :=
      List.findSome?_eq_some_iff.mpr ⟨earlier, node, later, split, found, first⟩
    rw [toJson_eq expression shallow, first_eq]

/-- A target with marks and a character beyond one unit, and of two bad numbers the first. -/
theorem toJson_reads_back_small_trees :
    let tree : Value :=
      .call "\"\\\x7f😀" [.number (Binary64.zero true), .call "" [], .integer 3]
    let refused : Value :=
      .call "f" [.integer 3, .call "g" [.number (.infinite true)], .number .nan]
    (∃ data, toData tree = .ok data ∧ ∀ indent, ∃ text, toJson tree indent = .ok text ∧
      Json.decode Json.readNumber text.toList = some data) ∧
      ∀ indent, toJson refused indent = .error (unwritableNumber (.infinite true)) := by
  intro tree refused
  obtain ⟨three, three_eq⟩ : ∃ number, Binary64.ofInt? 3 = some number :=
    Option.isSome_iff_exists.mp (by decide +kernel)
  have treeIs : IsExpression tree := by
    refine .call _ ?_
    simp only [List.forall_mem_cons]
    exact ⟨.number _, .call _ nofun, .integer three_eq, nofun⟩
  have refusedIs : IsExpression refused := by
    refine .call _ ?_
    simp only [List.forall_mem_cons]
    exact ⟨.integer three_eq, .call _ (List.forall_mem_singleton.mpr (.number _)), .number _, nofun⟩
  obtain ⟨data, data_eq, reads, -⟩ := toJson_reads_back tree treeIs (by decide)
  obtain ⟨-, -, -, refuses⟩ := toJson_reads_back refused refusedIs (by decide)
  refine ⟨⟨data, data_eq, fun indent => ?_⟩, ?_⟩
  · have finite : ∀ node ∈ Visitor.preorder 0 tree, nonFinite? node = none := by
      have nodes : Visitor.preorder 0 tree =
          [(0, tree), (1, .number (Binary64.zero true)), (1, .call "" []), (1, .integer 3)] := rfl
      rw [nodes]
      simp only [List.forall_mem_cons]
      exact ⟨rfl, rfl, rfl, rfl, nofun⟩
    obtain ⟨text, written, -, decoded, -⟩ := reads finite indent
    exact ⟨text, written, decoded⟩
  · refine refuses [(0, refused), (1, .integer 3), (1, .call "g" [.number (.infinite true)])]
      (2, .number (.infinite true)) [(1, .number .nan)] _ rfl rfl ?_
    simp only [List.forall_mem_cons]
    exact ⟨rfl, rfl, rfl, nofun⟩

end Call
end Descent
