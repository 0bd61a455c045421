import Descent.Proofs.Call.Token
import Descent.Proofs.Json.Decoder
import Descent.Proofs.Number.Shortest

/-!
# Numbers of JSON text

A number of JSON text has digits without a zero in front, perhaps a fraction and perhaps an
exponent.  The plain text of a finite floating-point number is one, and its decimal rounds to that
number.
-/

namespace Descent

/-- No zero stands in front of the digits of a positive number. -/
theorem head?_digitsOf_ne_zero {number : Nat} (positive : number ≠ 0) :
    (digitsOf number).head? ≠ some '0' := by
  induction number using Nat.strong_induction_on with
  | _ number induction =>
      rw [digitsOf, Nat.toDigits_eq_if (by decide)]
      split
      · rename_i small
        have digits : ∀ digit < 10, digit ≠ 0 → [Nat.digitChar digit].head? ≠ some '0' := by decide
        exact digits number small positive
      · rename_i large
        have first := induction (number / 10) (by omega) (by omega)
        rwa [← digitsOf, List.head?_append_of_ne_nil _ (digitsOf_ne_nil (number / 10))]

/-- A decimal with units has a digit other than zero in front. -/
theorem Binary64.exponent_of_shortest? {number : Binary64} {decimal : Decimal}
    (shortest : number.shortest? = some decimal) (noUnits : decimal.units = 0) :
    decimal.exponent = 0 := by
  have rounded := toBinary64_of_shortest? shortest
  rw [Decimal.toBinary64, Decimal.magnitude, noUnits, Nat.cast_zero, zero_mul, nearest,
    if_pos le_rfl] at rounded
  rw [← rounded] at shortest
  rw [← Option.some.inj shortest]

theorem Binary64.plainText_of_shortest? {number : Binary64} {decimal : Decimal}
    (shortest : number.shortest? = some decimal) : number.plainText = decimal.plainText := by
  cases number with
  | infinite _ | nan => contradiction
  | finite negative significand exponent canonical => rw [plainText, shortest]

namespace Json

/-! ## The parts of a number -/

/-- The text of an exponent behind a number. -/
def exponentPart : Option Int → List Char
  | none => []
  | some exponent => 'e' :: Decimal.exponentText exponent

/-- A number by its parts. -/
structure Numeral where
  negative : Bool
  /-- The digits in front of the point. -/
  whole : List Char
  /-- The digits behind the point. -/
  fraction : Option (List Char)
  exponent : Option Int
  all_whole : whole.all isDigit = true
  whole_ne_nil : whole ≠ []
  /-- A zero in front stands alone. -/
  eq_of_zero : whole.head? = some '0' → whole = ['0']
  all_fraction : ∀ digits ∈ fraction, digits.all isDigit = true
  fraction_ne_nil : ∀ digits ∈ fraction, digits ≠ []

namespace Numeral

/-- The text of a number. -/
def text (numeral : Numeral) : List Char :=
  signText numeral.negative ++
    (numeral.whole ++ (Call.fractionText numeral.fraction ++ exponentPart numeral.exponent))

/-- The decimal that a number denotes. -/
def decimal (numeral : Numeral) : Decimal :=
  ⟨numeral.negative, digitsValue (numeral.whole ++ numeral.fraction.getD []),
    numeral.exponent.getD 0 - ((numeral.fraction.getD []).length : Int)⟩

theorem headFails_exponentPart (exponent : Option Int) :
    Call.HeadFails isDigit (exponentPart exponent) := by
  cases exponent with
  | none => exact nofun
  | some exponent => exact Call.headFails_cons rfl _

theorem all_exponentDigits (exponent : Int) :
    (List.replicate (2 - (digitsOf exponent.natAbs).length) '0' ++
      digitsOf exponent.natAbs).all isDigit = true := by
  rw [List.all_append, all_zeros, all_digitsOf, Bool.and_self]

theorem readExponent_exponentText (exponent : Int) :
    Decimal.readExponent (Decimal.exponentText exponent) = some exponent := by
  have all := all_exponentDigits exponent
  have value_eq := digitsValue_zeros_append (2 - (digitsOf exponent.natAbs).length)
    (digitsOf exponent.natAbs)
  rw [digitsValue_digitsOf] at value_eq
  have nonempty : List.replicate (2 - (digitsOf exponent.natAbs).length) '0' ++
      digitsOf exponent.natAbs ≠ [] :=
    fun empty => digitsOf_ne_nil _ (List.append_eq_nil_iff.mp empty).2
  rw [Decimal.exponentText]
  generalize List.replicate (2 - (digitsOf exponent.natAbs).length) '0' ++
    digitsOf exponent.natAbs = digits at all value_eq nonempty
  have isEmpty_eq : digits.isEmpty = false := by rwa [List.isEmpty_eq_false_iff]
  by_cases below : exponent < 0
  · rw [if_pos below]
    simp only [Decimal.readExponent, Decimal.splitSign, isEmpty_eq, all, value_eq]
    exact congrArg some (show -(exponent.natAbs : Int) = exponent by omega)
  · rw [if_neg below]
    simp only [Decimal.readExponent, Decimal.splitSign, isEmpty_eq, all, value_eq]
    exact congrArg some (show (exponent.natAbs : Int) = exponent by omega)

theorem exponent?_exponentPart (exponent : Option Int) :
    exponent? (exponentPart exponent) = some (exponent.getD 0) := by
  cases exponent with
  | none => rfl
  | some exponent =>
      rw [exponentPart, exponent?, if_pos (Or.inl rfl), readExponent_exponentText]
      rfl

theorem fraction?_fractionText (numeral : Numeral) :
    fraction? (Call.fractionText numeral.fraction ++ exponentPart numeral.exponent) =
      some (numeral.fraction.getD [], exponentPart numeral.exponent) := by
  have all := numeral.all_fraction
  have nonempty := numeral.fraction_ne_nil
  have stops := headFails_exponentPart numeral.exponent
  cases fraction_eq : numeral.fraction with
  | none =>
      cases numeral.exponent with
      | none => rfl
      | some exponent => rfl
  | some digits =>
      rw [fraction_eq] at all nonempty
      have all_digits := all digits rfl
      rw [List.all_eq_true] at all_digits
      rw [Call.fractionText, List.cons_append, fraction?,
        List.takeWhile_append_of_pos all_digits, List.dropWhile_append_of_pos all_digits,
        Call.takeWhile_of_headFails stops, Call.dropWhile_of_headFails stops, List.append_nil,
        if_neg]
      · rfl
      · rw [List.isEmpty_iff]
        exact nonempty digits rfl

theorem headFails_behindWhole (numeral : Numeral) :
    Call.HeadFails isDigit
      (Call.fractionText numeral.fraction ++ exponentPart numeral.exponent) := by
  cases numeral.fraction with
  | none => exact headFails_exponentPart _
  | some digits => exact Call.headFails_cons rfl _

/-- A number is read with its parts. -/
theorem number?_text (numeral : Numeral) : number? numeral.text = some numeral.decimal := by
  have all := numeral.all_whole
  rw [List.all_eq_true] at all
  have stops := numeral.headFails_behindWhole
  have read : unsigned? numeral.negative
      (numeral.whole ++ (Call.fractionText numeral.fraction ++ exponentPart numeral.exponent)) =
        some numeral.decimal := by
    have proper : ¬ (numeral.whole = [] ∨
        (numeral.whole.head? = some '0' ∧ numeral.whole ≠ ['0'])) := by
      rintro (empty | ⟨zero, others⟩)
      · exact numeral.whole_ne_nil empty
      · exact others (numeral.eq_of_zero zero)
    rw [unsigned?, List.takeWhile_append_of_pos all, List.dropWhile_append_of_pos all,
      Call.takeWhile_of_headFails stops, Call.dropWhile_of_headFails stops, List.append_nil]
    rw [if_neg proper, fraction?_fractionText]
    simp only [exponent?_exponentPart]
    rfl
  rw [text]
  cases sign_eq : numeral.negative with
  | true =>
      rw [sign_eq] at read
      exact read
  | false =>
      rw [sign_eq] at read
      -- Without a sign the text begins with a digit, and so is not taken as a negative number.
      have unsigned : ∀ first ∈ numeral.whole.head?, first ≠ '-' := by
        rintro first mem rfl
        have digit := all '-' (List.mem_of_mem_head? mem)
        revert digit
        decide
      cases whole_eq : numeral.whole with
      | nil => exact absurd whole_eq numeral.whole_ne_nil
      | cons first others =>
          rw [whole_eq] at read unsigned
          rw [signText, if_neg (by decide), List.nil_append, List.cons_append, number?]
          · exact read
          · exact fun rest same => unsigned first rfl (List.cons.inj same).1

theorem splitSign_text (numeral : Numeral) :
    Decimal.splitSign numeral.text =
      (numeral.negative,
        numeral.whole ++ (Call.fractionText numeral.fraction ++ exponentPart numeral.exponent)) := by
  obtain ⟨digit, others, whole_eq⟩ := List.exists_cons_of_ne_nil numeral.whole_ne_nil
  have all := numeral.all_whole
  rw [whole_eq, List.all_cons, Bool.and_eq_true] at all
  cases sign_eq : numeral.negative with
  | true => simp [text, sign_eq, signText, Decimal.splitSign]
  | false => simp [text, sign_eq, signText, whole_eq, Call.decimalSplitSign_of_digit all.1]

/-- The text of a number denotes the decimal of its parts. -/
theorem read_text (numeral : Numeral) : Decimal.read numeral.text = some numeral.decimal := by
  have all := List.all_eq_true.mp numeral.all_whole
  have stops := numeral.headFails_behindWhole
  have nonempty : numeral.whole.isEmpty = false := by simp [numeral.whole_ne_nil]
  simp only [Decimal.read, splitSign_text, List.takeWhile_append_of_pos all,
    List.dropWhile_append_of_pos all, Call.takeWhile_of_headFails stops,
    Call.dropWhile_of_headFails stops, List.append_nil, nonempty, Decimal.ofDigits,
    digitsValueHalved_eq, decimal]
  cases fraction_eq : numeral.fraction with
  | none =>
      cases numeral.exponent with
      | none => simp [Call.fractionText, exponentPart]
      | some exponent => simp [Call.fractionText, exponentPart, readExponent_exponentText]
  | some digits =>
      have members := List.all_eq_true.mp (numeral.all_fraction digits fraction_eq)
      have ends := headFails_exponentPart numeral.exponent
      simp only [Call.fractionText, List.cons_append, List.takeWhile_append_of_pos members,
        List.dropWhile_append_of_pos members, Call.takeWhile_of_headFails ends,
        Call.dropWhile_of_headFails ends, List.append_nil]
      cases numeral.exponent with
      | none => simp [exponentPart]
      | some exponent =>
          simp [exponentPart, readExponent_exponentText, Int.add_comm, Int.sub_eq_add_neg]

/-! ## Their characters -/

theorem isNumberCharacter_of_isDigit {character : Char} (digit : isDigit character = true) :
    isNumberCharacter character = true := by
  simp [isNumberCharacter, digit]

theorem all_of_digits {characters : List Char} (all : characters.all isDigit = true) :
    characters.all isNumberCharacter = true := by
  rw [List.all_eq_true] at all ⊢
  exact fun character mem => isNumberCharacter_of_isDigit (all character mem)

/-- A number consists of the characters of numbers. -/
theorem all_text (numeral : Numeral) : numeral.text.all isNumberCharacter = true := by
  have sign : (signText numeral.negative).all isNumberCharacter = true := by
    cases numeral.negative <;> decide
  have fraction : (Call.fractionText numeral.fraction).all isNumberCharacter = true := by
    have all := numeral.all_fraction
    cases fraction_eq : numeral.fraction with
    | none => rfl
    | some digits =>
        rw [fraction_eq] at all
        rw [Call.fractionText, List.all_cons, all_of_digits (all digits rfl)]
        decide
  have exponent : (exponentPart numeral.exponent).all isNumberCharacter = true := by
    cases numeral.exponent with
    | none => rfl
    | some exponent =>
        rw [exponentPart, Decimal.exponentText, List.all_cons, List.all_cons,
          all_of_digits (all_exponentDigits exponent)]
        split <;> decide
  simp only [text, List.all_append, sign, all_of_digits numeral.all_whole, fraction, exponent,
    Bool.and_self]

/-! ## Texts that are numbers -/

/-- An integer is a number of whole units. -/
theorem exists_text_eq_integerText (number : Int) :
    ∃ numeral : Numeral, numeral.text = integerText number ∧
      numeral.decimal = ⟨decide (number < 0), number.natAbs, 0⟩ := by
  refine ⟨{
    negative := decide (number < 0)
    whole := digitsOf number.natAbs
    fraction := none
    exponent := none
    all_whole := all_digitsOf number.natAbs
    whole_ne_nil := digitsOf_ne_nil number.natAbs
    eq_of_zero := ?_
    all_fraction := by rintro _ ⟨⟩
    fraction_ne_nil := by rintro _ ⟨⟩ }, ?_, ?_⟩
  · intro zero
    by_cases none : number.natAbs = 0
    · rw [none]
      rfl
    · exact absurd zero (head?_digitsOf_ne_zero none)
  · by_cases below : number < 0
    · simp [text, integerText, below, signText, Call.fractionText, exponentPart]
    · simp [text, integerText, below, signText, Call.fractionText, exponentPart]
  · simp [Numeral.decimal, digitsValue_digitsOf]

/-- Positional notation of a whole number with a fraction of zero is a number. -/
theorem exists_text_eq_whole (decimal : Decimal) (nonneg : 0 ≤ decimal.exponent)
    (zero : decimal.units = 0 → decimal.exponent = 0) :
    ∃ numeral : Numeral,
      numeral.text = signText decimal.negative ++ (decimal.positional ++ ['.', '0']) ∧
      numeral.decimal.toBinary64 = decimal.toBinary64 := by
  have digits_all := all_digitsOf decimal.units
  have digits_ne := digitsOf_ne_nil decimal.units
  have units_eq := digitsValue_digitsOf decimal.units
  rw [Decimal.positional, if_pos nonneg]
  refine ⟨{
    negative := decimal.negative
    whole := digitsOf decimal.units ++ List.replicate decimal.exponent.toNat '0'
    fraction := some ['0']
    exponent := none
    all_whole := by rw [List.all_append, digits_all, all_zeros, Bool.and_self]
    whole_ne_nil := fun empty => digits_ne (List.append_eq_nil_iff.mp empty).1
    eq_of_zero := ?_
    all_fraction := by rintro digits ⟨rfl⟩; rfl
    fraction_ne_nil := by rintro digits ⟨rfl⟩; exact List.cons_ne_nil _ _ }, ?_, ?_⟩
  · rw [List.head?_append_of_ne_nil _ digits_ne]
    intro first
    by_cases noUnits : decimal.units = 0
    · rw [zero noUnits, noUnits]
      rfl
    · exact absurd first (head?_digitsOf_ne_zero noUnits)
  · simp [text, Call.fractionText, exponentPart]
  · have zeros : digitsOf decimal.units ++ List.replicate decimal.exponent.toNat '0' ++ ['0'] =
        digitsOf decimal.units ++ List.replicate (decimal.exponent.toNat + 1) '0' := by
      rw [List.replicate_succ', List.append_assoc]
    have power_eq : (10 : ℚ) ^ (decimal.exponent.toNat + 1) * 10 ^ (-1 : ℤ) =
        10 ^ decimal.exponent := by
      rw [pow_succ, zpow_neg_one, mul_assoc, mul_inv_cancel₀ (by norm_num), mul_one,
        ← zpow_natCast, Int.toNat_of_nonneg nonneg]
    rw [Decimal.toBinary64, Decimal.toBinary64]
    simp only [Numeral.decimal, Decimal.magnitude, Option.getD_some, Option.getD_none, zeros,
      digitsValue_append_zeros, units_eq, tenPower_eq_zpow, List.length_singleton]
    push_cast
    rw [mul_assoc, power_eq]

/-- Digits with a point between them are a number. -/
theorem exists_text_eq_pointed (negative : Bool) {digits : List Char} {places : Nat}
    (all : digits.all isDigit = true) (head_ne : digits.head? ≠ some '0') (positive : 0 < places)
    (inside : places < digits.length) :
    ∃ numeral : Numeral,
      numeral.text = signText negative ++
        (digits.take (digits.length - places) ++ '.' :: digits.drop (digits.length - places)) ∧
      numeral.decimal = ⟨negative, digitsValue digits, -places⟩ := by
  have parts : (digits.take (digits.length - places) ++
      digits.drop (digits.length - places)).all isDigit = true := by
    rw [List.take_append_drop, all]
  rw [List.all_append, Bool.and_eq_true] at parts
  have length_eq : (digits.drop (digits.length - places)).length = places := by
    rw [List.length_drop]
    omega
  refine ⟨{
    negative := negative
    whole := digits.take (digits.length - places)
    fraction := some (digits.drop (digits.length - places))
    exponent := none
    all_whole := parts.1
    whole_ne_nil := ?_
    eq_of_zero := ?_
    all_fraction := by rintro _ ⟨rfl⟩; exact parts.2
    fraction_ne_nil := ?_ }, ?_, ?_⟩
  · rw [← List.length_pos_iff, List.length_take]
    omega
  · rw [List.head?_take, if_neg (by omega)]
    exact fun first => absurd first head_ne
  · rintro _ ⟨rfl⟩
    rwa [← List.length_pos_iff, length_eq]
  · simp [text, Call.fractionText, exponentPart]
  · rw [Numeral.decimal]
    dsimp only
    rw [Option.getD_some, Option.getD_none, List.take_append_drop, length_eq, zero_sub]

/-- Digits behind a zero, a point and perhaps further zeros are a number. -/
theorem exists_text_eq_padded (negative : Bool) {digits : List Char} {places : Nat}
    (all : digits.all isDigit = true) (nonempty : digits ≠ [])
    (outside : digits.length ≤ places) :
    ∃ numeral : Numeral,
      numeral.text = signText negative ++
        ('0' :: '.' :: (List.replicate (places - digits.length) '0' ++ digits)) ∧
      numeral.decimal = ⟨negative, digitsValue digits, -places⟩ := by
  have padded : (List.replicate (places - digits.length) '0' ++ digits).all isDigit = true := by
    rw [List.all_append, all, all_zeros, Bool.and_self]
  have length_eq : (List.replicate (places - digits.length) '0' ++ digits).length = places := by
    rw [List.length_append, List.length_replicate]
    omega
  have value_eq : digitsValue (['0'] ++ (List.replicate (places - digits.length) '0' ++ digits)) =
      digitsValue digits := by
    rw [← List.replicate_one, digitsValue_zeros_append, digitsValue_zeros_append]
  refine ⟨{
    negative := negative
    whole := ['0']
    fraction := some (List.replicate (places - digits.length) '0' ++ digits)
    exponent := none
    all_whole := rfl
    whole_ne_nil := List.cons_ne_nil _ _
    eq_of_zero := fun _ => rfl
    all_fraction := by rintro _ ⟨rfl⟩; exact padded
    fraction_ne_nil := ?_ }, ?_, ?_⟩
  · rintro _ ⟨rfl⟩ empty
    exact nonempty (List.append_eq_nil_iff.mp empty).2
  · simp [text, Call.fractionText, exponentPart]
  · rw [Numeral.decimal]
    dsimp only
    rw [Option.getD_some, Option.getD_none, value_eq, length_eq, zero_sub]

/-- Positional notation of a number that is not whole is a number. -/
theorem exists_text_eq_fraction (decimal : Decimal) (nonneg : ¬ 0 ≤ decimal.exponent)
    (units_ne : decimal.units ≠ 0) :
    ∃ numeral : Numeral, numeral.text = signText decimal.negative ++ decimal.positional ∧
      numeral.decimal = decimal := by
  have all := all_digitsOf decimal.units
  have decimal_eq : (⟨decimal.negative, digitsValue (digitsOf decimal.units),
      -((-decimal.exponent).toNat : Int)⟩ : Decimal) = decimal := by
    rw [digitsValue_digitsOf, Int.toNat_of_nonneg (by omega), neg_neg]
  rw [Decimal.positional, if_neg nonneg]
  dsimp only
  split
  · rename_i inside
    obtain ⟨numeral, text_eq, same⟩ := exists_text_eq_pointed decimal.negative all
      (head?_digitsOf_ne_zero units_ne) (by omega) inside
    exact ⟨numeral, text_eq, same.trans decimal_eq⟩
  · rename_i outside
    obtain ⟨numeral, text_eq, same⟩ := exists_text_eq_padded decimal.negative all
      (digitsOf_ne_nil _) (Nat.le_of_not_lt outside)
    exact ⟨numeral, text_eq, same.trans decimal_eq⟩

/-- Positional notation, with a fraction of zero for a whole number, is a number. -/
theorem exists_text_eq_positional (decimal : Decimal)
    (zero : decimal.units = 0 → decimal.exponent = 0) :
    ∃ numeral : Numeral,
      numeral.text = signText decimal.negative ++
        (decimal.positional ++ if 0 ≤ decimal.exponent then ['.', '0'] else []) ∧
      numeral.decimal.toBinary64 = decimal.toBinary64 := by
  by_cases nonneg : 0 ≤ decimal.exponent
  · rw [if_pos nonneg]
    exact exists_text_eq_whole decimal nonneg zero
  · obtain ⟨numeral, text_eq, rfl⟩ :=
      exists_text_eq_fraction decimal nonneg fun noUnits => nonneg (zero noUnits).ge
    exact ⟨numeral, by rw [text_eq, if_neg nonneg, List.append_nil], rfl⟩

/-- Scientific notation is a number. -/
theorem exists_text_eq_scientific (decimal : Decimal) :
    ∃ numeral : Numeral, numeral.text = signText decimal.negative ++ decimal.scientific ∧
      numeral.decimal = decimal := by
  have digits_all := all_digitsOf decimal.units
  have digits_ne := digitsOf_ne_nil decimal.units
  have units_eq := digitsValue_digitsOf decimal.units
  have leading_eq : decimal.leadingExponent =
      decimal.exponent + ((digitsOf decimal.units).length : Int) - 1 := rfl
  rw [Decimal.scientific]
  generalize digitsOf decimal.units = digits at digits_all digits_ne units_eq leading_eq
  match digits with
  | [] => contradiction
  | [first] =>
      refine ⟨{
        negative := decimal.negative
        whole := [first]
        fraction := none
        exponent := some decimal.leadingExponent
        all_whole := digits_all
        whole_ne_nil := List.cons_ne_nil _ _
        eq_of_zero := fun zero => by rw [Option.some.inj zero]
        all_fraction := by rintro _ ⟨⟩
        fraction_ne_nil := by rintro _ ⟨⟩ }, ?_, ?_⟩
      · simp [text, Call.fractionText, exponentPart]
      · simp [Numeral.decimal, units_eq, leading_eq]
  | first :: second :: others =>
      rw [List.all_cons, Bool.and_eq_true] at digits_all
      refine ⟨{
        negative := decimal.negative
        whole := [first]
        fraction := some (second :: others)
        exponent := some decimal.leadingExponent
        all_whole := by rw [List.all_cons, digits_all.1]; rfl
        whole_ne_nil := List.cons_ne_nil _ _
        eq_of_zero := fun zero => by rw [Option.some.inj zero]
        all_fraction := by rintro _ ⟨rfl⟩; exact digits_all.2
        fraction_ne_nil := by rintro _ ⟨rfl⟩; exact List.cons_ne_nil _ _ }, ?_, ?_⟩
      · simp [text, Call.fractionText, exponentPart]
      · have exponent_eq : decimal.leadingExponent - ((second :: others).length : Int) =
            decimal.exponent := by
          rw [leading_eq, List.length_cons]
          omega
        rw [Numeral.decimal]
        dsimp only
        rw [Option.getD_some, Option.getD_some, List.singleton_append, units_eq, exponent_eq]

/-- The plain text of a finite number is a number, and it is read as the same number. -/
theorem exists_text_eq_plainText {number : Binary64} (isFinite : number.isFinite = true) :
    ∃ numeral : Numeral, numeral.text = number.plainText ∧
      numeral.decimal.toBinary64 = number := by
  obtain ⟨decimal, shortest⟩ := Option.isSome_iff_exists.mp (number.isSome_shortest?.trans isFinite)
  rw [Binary64.plainText_of_shortest? shortest, Decimal.plainText]
  split
  · obtain ⟨numeral, numeral_text, same⟩ :=
      exists_text_eq_positional decimal (Binary64.exponent_of_shortest? shortest)
    exact ⟨numeral, numeral_text, same.trans (Binary64.toBinary64_of_shortest? shortest)⟩
  · obtain ⟨numeral, numeral_text, rfl⟩ := exists_text_eq_scientific decimal
    exact ⟨numeral, numeral_text, Binary64.toBinary64_of_shortest? shortest⟩

end Numeral

end Json
end Descent
