import Descent.Proofs.Json.Layout

/-!
# JSON text is read back

The machine that puts tokens together takes the words of a piece of data from the place where a
value must follow to the place where that data is complete, with the same containers open around it.
So the text of data is read as the data again, in every style.
-/

namespace Descent
namespace Json

/-- Data that is the same when it is read from JSON text, with a reader of numbers: it has no tuples
and no calls, and its numbers are finite and read back from their texts. -/
inductive IsData (reader : Decimal → Value) : Value → Prop where
  | null : IsData reader .null
  | truth (value : Bool) : IsData reader (.truth value)
  | integer {value : Int} (same : reader (Word.decimalOf (integerText value)) = .integer value) :
      IsData reader (.integer value)
  | number {value : Binary64} (isFinite : value.isFinite = true)
      (same : reader (Word.decimalOf value.plainText) = .number value) :
      IsData reader (.number value)
  | text (value : String) : IsData reader (.text value)
  | list {items : List Value} (all : ∀ item ∈ items, IsData reader item) :
      IsData reader (.list items)
  | record {names : List String} {values : List Value} (length_eq : names.length = values.length)
      (all : ∀ value ∈ values, IsData reader value) : IsData reader (.record names values)

variable {reader : Decimal → Value}

/-! ## Readers of numbers -/

/-- A number as the nearest floating-point number. -/
def readNumber (decimal : Decimal) : Value := .number decimal.toBinary64

/-- A number of whole units as an integer, any other one as the nearest floating-point number. -/
def readWhole (decimal : Decimal) : Value :=
  if decimal.exponent = 0 then
    .integer (if decimal.negative then -(decimal.units : Int) else decimal.units)
  else .number decimal.toBinary64

/-- A finite number is read back as the nearest one to its text. -/
theorem readNumber_plainText {value : Binary64} (isFinite : value.isFinite = true) :
    readNumber (Word.decimalOf value.plainText) = .number value := by
  obtain ⟨numeral, text_eq, same⟩ := Numeral.exists_text_eq_plainText isFinite
  rw [Word.decimalOf, ← text_eq, numeral.number?_text, Option.getD_some, readNumber, same]

/-- An integer is read back from its digits. -/
theorem readWhole_integerText (value : Int) :
    readWhole (Word.decimalOf (integerText value)) = .integer value := by
  obtain ⟨numeral, text_eq, decimal_eq⟩ := Numeral.exists_text_eq_integerText value
  have signed : (if decide (value < 0) = true then -(value.natAbs : Int) else value.natAbs) =
      value := by
    simp only [decide_eq_true_eq]
    omega
  rw [Word.decimalOf, ← text_eq, numeral.number?_text, Option.getD_some, decimal_eq, readWhole,
    if_pos rfl, signed]

/-! ## Data is read back -/

theorem firstUnwritableOf?_eq_none {items : List Value}
    (all : ∀ item ∈ items, firstUnwritable? item = none) : firstUnwritableOf? items = none := by
  induction items with
  | nil => rfl
  | cons item items induction =>
      rw [List.forall_mem_cons] at all
      rw [firstUnwritableOf?, all.1, induction all.2]

theorem IsData.firstUnwritable?_eq_none {value : Value} (data : IsData reader value) :
    firstUnwritable? value = none := by
  induction data with
  | null | truth | integer | text => rfl
  | number isFinite => exact if_pos isFinite
  | list _ induction => exact firstUnwritableOf?_eq_none induction
  | record _ _ induction => exact firstUnwritableOf?_eq_none induction

namespace Stage

/-- The machine reads words. -/
def read (reader : Decimal → Value) (stage : Stage) (words : List Word) : Option Stage :=
  words.foldlM (fun stage word => stage.step? reader word.token) stage

theorem read_cons (stage : Stage) (word : Word) (words : List Word) :
    stage.read reader (word :: words) =
      (stage.step? reader word.token).bind (·.read reader words) :=
  List.foldlM_cons

theorem read_append (stage : Stage) (first second : List Word) :
    stage.read reader (first ++ second) =
      (stage.read reader first).bind (·.read reader second) :=
  List.foldlM_append

/-- Items behind others, up to the end of their array. -/
theorem read_items {item : Value} {items : List Value}
    (all : ∀ item' ∈ item :: items, ∀ outer, (value outer).read reader (words item') =
      some (complete item' outer)) (done : List Value) (outer : List Frame) :
    (value (.array done :: outer)).read reader
        ([.mark .comma].intercalate (wordsOf (item :: items)) ++ [.mark .closeArray]) =
      some (complete (.list (done.reverse ++ item :: items)) outer) := by
  induction items generalizing item done with
  | nil =>
      rw [List.forall_mem_singleton] at all
      have last : (item :: done).reverse = done.reverse ++ [item] := List.reverse_cons
      rw [wordsOf, wordsOf, List.intercalate_singleton, read_append, all, Option.bind_some, ← last]
      rfl
  | cons next items induction =>
      rw [List.forall_mem_cons] at all
      -- The comma puts the item that was read to those done.
      have further := induction all.2 (item :: done)
      rw [List.reverse_cons, List.append_assoc, List.singleton_append] at further
      rw [wordsOf, wordsOf, List.intercalate_cons_cons, List.append_assoc, List.append_assoc,
        read_append, all.1, Option.bind_some, List.singleton_append, read_cons]
      exact further

/-- Fields behind others, up to the end of their object. -/
theorem read_fields (name : String) {names : List String} {item : Value} {values : List Value}
    (length_eq : names.length = values.length)
    (all : ∀ item' ∈ item :: values, ∀ outer, (value outer).read reader (words item') =
      some (complete item' outer)) (doneNames : List String) (done : List Value)
    (outer : List Frame) :
    (Stage.name doneNames done outer).read reader
        ([.mark .comma].intercalate
            (List.zipWith fieldWords (name :: names) (wordsOf (item :: values))) ++
          [.mark .closeObject]) =
      some (complete
        (.record (doneNames.reverse ++ name :: names) (done.reverse ++ item :: values)) outer) := by
  induction names generalizing name item values doneNames done with
  | nil =>
      obtain rfl := List.eq_nil_of_length_eq_zero length_eq.symm
      rw [List.forall_mem_singleton] at all
      have names_eq : (name :: doneNames).reverse = doneNames.reverse ++ [name] := List.reverse_cons
      have values_eq : (item :: done).reverse = done.reverse ++ [item] := List.reverse_cons
      rw [wordsOf, wordsOf, List.zipWith_cons_cons, List.zipWith_nil_left,
        List.intercalate_singleton, fieldWords, List.cons_append, List.cons_append, read_cons]
      show (read reader (.value (.object doneNames done name :: outer)) (words item ++ _)) = _
      rw [read_append, all, Option.bind_some, ← names_eq, ← values_eq]
      rfl
  | cons nextName names induction =>
      cases values with
      | nil => contradiction
      | cons next values =>
          rw [List.forall_mem_cons] at all
          have further := induction nextName (Nat.succ.inj length_eq) all.2
            (name :: doneNames) (item :: done)
          rw [List.reverse_cons, List.append_assoc, List.singleton_append, List.reverse_cons,
            List.append_assoc, List.singleton_append] at further
          rw [wordsOf, wordsOf, List.zipWith_cons_cons, List.zipWith_cons_cons,
            List.intercalate_cons_cons, fieldWords, List.append_assoc, List.append_assoc,
            List.cons_append, List.cons_append, read_cons]
          show (read reader (.value (.object doneNames done name :: outer)) (words item ++ _)) = _
          rw [read_append, all.1, Option.bind_some, List.singleton_append, read_cons]
          exact further

/-- Where an array was opened, a value that follows is its first item. -/
theorem read_firstItem (outer : List Frame) {word : Word} (words : List Word)
    (opens : word.token ≠ .mark .closeArray) :
    (firstItem outer).read reader (word :: words) =
      (value (.array [] :: outer)).read reader (word :: words) := by
  have step_eq : (firstItem outer).step? reader word.token =
      (value (.array [] :: outer)).step? reader word.token := by
    generalize word.token = token at opens
    cases token with
    | mark sign =>
        cases sign with
        | closeArray => contradiction
        | openArray | openObject | closeObject | colon | comma => rfl
    | null | truth | text | number => rfl
  rw [read_cons, read_cons, step_eq]

end Stage

/-- No value begins with the end of an array. -/
theorem exists_words_eq_cons (value : Value) :
    ∃ word others, words value = word :: others ∧ word.token ≠ .mark .closeArray := by
  cases value <;> exact ⟨_, _, rfl, nofun⟩

/-- The machine goes from the place of a value to its end, with the same containers around. -/
theorem IsData.read_words {value : Value} (data : IsData reader value) (outer : List Frame) :
    (Stage.value outer).read reader (words value) = some (.complete value outer) := by
  induction data generalizing outer with
  | null => rfl
  | truth value => rfl
  | integer same | number _ same =>
      rw [words, Stage.read_cons, Word.token, Stage.step?, Stage.begin?, same]
      rfl
  | text value => rfl
  | @list items _ induction =>
      rw [words, bracketed, Stage.read_cons]
      show (Stage.firstItem outer).read reader _ = _
      cases items with
      | nil => rfl
      | cons item items =>
          have inner := Stage.read_items induction [] outer
          obtain ⟨word, others, words_eq, opens⟩ := exists_words_eq_cons item
          rw [wordsOf, words_eq, List.intercalate_cons_cons_left, List.cons_append] at inner ⊢
          rw [Stage.read_firstItem outer _ opens]
          exact inner
  | @record names values length_eq _ induction =>
      rw [words, bracketed, Stage.read_cons]
      show (Stage.firstName outer).read reader _ = _
      cases names with
      | nil =>
          obtain rfl := List.eq_nil_of_length_eq_zero length_eq.symm
          rfl
      | cons name names =>
          cases values with
          | nil => contradiction
          | cons item values =>
              have inner := Stage.read_fields name (Nat.succ.inj length_eq) induction
                [] [] outer
              rw [wordsOf, List.zipWith_cons_cons, fieldWords, List.intercalate_cons_cons_left,
                List.cons_append] at inner ⊢
              exact inner

/-- The text of data is read as the data. -/
theorem IsData.decode_text {value : Value} (data : IsData reader value) (style : JsonStyle) :
    decode reader (Json.text style value).toList = some value := by
  have writable := writable_words data.firstUnwritable?_eq_none
  have run := data.read_words []
  rw [Stage.read, ← List.foldlM_map (f := Word.token)] at run
  rw [decode, (spaced_text style value).tokens_eq writable, Option.bind_eq_bind, Option.bind_some,
    run]
  rfl

end Json
end Descent
