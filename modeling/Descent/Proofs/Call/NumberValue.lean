import Descent.Proofs.Call.NumberText
import Descent.Proofs.Json.Numeral
import Descent.Proofs.Number.Whole

/-!
# The exact value of a number's text

The text of a number is taken whole by the pattern of numbers.  Read as an exact decimal it is the
number itself if that is whole, and otherwise the decimal of the plain text, with the same units and
the same power of ten, however the plain text is laid out.
-/

namespace Descent

/-! ## Decimals in their layouts -/

namespace Decimal

theorem read_integerText (whole : Int) :
    read (integerText whole) = some ⟨decide (whole < 0), whole.natAbs, 0⟩ := by
  obtain ⟨numeral, text_eq, decimal_eq⟩ := Json.Numeral.exists_text_eq_integerText whole
  rw [← text_eq, numeral.read_text, decimal_eq]

/-- An integer as a decimal has the value of the integer. -/
theorem toRat_integer (whole : Int) : toRat ⟨decide (whole < 0), whole.natAbs, 0⟩ = whole := by
  rw [toRat, magnitude, tenPower_eq_zpow, zpow_zero, mul_one, Nat.cast_natAbs, Int.cast_abs]
  by_cases below : whole < 0
  · rw [decide_eq_true below, if_pos rfl, abs_of_neg (Int.cast_lt_zero.mpr below), neg_neg]
  · rw [decide_eq_false below, if_neg Bool.false_ne_true, abs_of_nonneg]
    exact Int.cast_nonneg (Int.not_lt.mp below)

variable {decimal : Decimal}

/-- Positional notation with digits behind the point loses no digit and adds none. -/
theorem read_positional (isFraction : decimal.exponent < 0) (units_ne : decimal.units ≠ 0) :
    read (signText decimal.negative ++ decimal.positional) = some decimal := by
  obtain ⟨numeral, text_eq, decimal_eq⟩ :=
    Json.Numeral.exists_text_eq_fraction decimal (Int.not_le.mpr isFraction) units_ne
  rw [← text_eq, numeral.read_text, decimal_eq]

theorem read_scientific (decimal : Decimal) :
    read (signText decimal.negative ++ decimal.scientific) = some decimal := by
  obtain ⟨numeral, text_eq, decimal_eq⟩ := Json.Numeral.exists_text_eq_scientific decimal
  rw [← text_eq, numeral.read_text, decimal_eq]

/-- Both layouts of the plain text denote the decimal that is written. -/
theorem read_plainText (isFraction : decimal.exponent < 0) (units_ne : decimal.units ≠ 0) :
    read decimal.plainText = some decimal := by
  rw [plainText]
  split
  · rw [if_neg (Int.not_le.mpr isFraction), List.append_nil]
    exact read_positional isFraction units_ne
  · exact read_scientific decimal

end Decimal

/-! ## Whole numbers -/

theorem Binary64.toInt?_of_toRat? {number : Binary64} {whole : Int}
    (value_eq : number.toRat? = some (whole : ℚ)) : number.toInt? = some whole := by
  rw [toInt?, value_eq]
  exact if_pos (Rat.den_intCast whole)

/-- The digits of an integer have no zero in front of others. -/
theorem exists_digits_integerText (whole : Int) :
    ∃ digits, integerText whole = signText (decide (whole < 0)) ++ digits ∧
      digits.all isDigit = true ∧ (digits.head? = some '0' → digits = ['0']) := by
  refine ⟨digitsOf whole.natAbs, ?_, all_digitsOf whole.natAbs, fun zero => ?_⟩
  · by_cases below : whole < 0 <;> simp [integerText, signText, below]
  · by_cases units : whole.natAbs = 0
    · rw [units]
      rfl
    · exact absurd zero (head?_digitsOf_ne_zero units)

namespace Call

/-! ## The characters of a literal -/

namespace Literal

theorem mem_text (literal : Literal) {character : Char} (mem : character ∈ literal.text) :
    isDigit character = true ∨ character = '+' ∨ character = '-' ∨ character = '.' := by
  rw [text, List.mem_append, List.mem_append, Option.mem_toList] at mem
  rcases mem with sign | whole | fraction
  · have signed := literal.sign_mem character sign
    tauto
  · exact .inl (List.all_eq_true.mp literal.all_whole character whole)
  · have all := literal.all_fraction
    cases fraction_eq : literal.fraction with
    | none => simp [fraction_eq, fractionText] at fraction
    | some digits =>
        rw [fraction_eq, fractionText, List.mem_cons] at fraction
        rcases fraction with rfl | digit
        · exact .inr (.inr (.inr rfl))
        · exact .inl (List.all_eq_true.mp (all digits fraction_eq) character digit)

/-- A literal has no mark of an exponent. -/
theorem mark_notMem_text (literal : Literal) : 'e' ∉ literal.text ∧ 'E' ∉ literal.text := by
  constructor
  · intro mem
    have characters := literal.mem_text mem
    revert characters
    decide
  · intro mem
    have characters := literal.mem_text mem
    revert characters
    decide

/-- The pattern of numbers takes a literal as a whole. -/
theorem matchEnd?_text (literal : Literal) :
    numberPattern.matchEnd? 0 literal.text = some literal.text.length := by
  have split := literal.split?_append (show NumberEnds [] from nofun)
  rw [List.append_nil] at split
  rw [matchEnd?_numberPattern, split, Option.map_some, Nat.zero_add]

end Literal

/-! ## The text of a number -/

variable {number : Binary64}

/-- What is written is the literal text, which is a literal as a whole and has no exponent. -/
theorem written_of_literalText? {characters : List Char}
    (text_eq : number.literalText? = some characters) :
    numberText number = .ok (String.ofList characters) ∧
      numberPattern.matchEnd? 0 characters = some characters.length ∧
        'e' ∉ characters ∧ 'E' ∉ characters := by
  obtain ⟨literal, rfl, -⟩ := exists_literal_of_literalText? text_eq
  refine ⟨?_, literal.matchEnd?_text, literal.mark_notMem_text⟩
  rw [numberText, text_eq]

theorem literalText?_of_whole {whole : Int} (value_eq : number.toRat? = some (whole : ℚ)) :
    number.literalText? = some (integerText whole) := by
  rw [Binary64.literalText?, Binary64.toInt?_of_toRat? value_eq]

/-- A number that is not whole is written in positional notation of its shortest decimal. -/
theorem exists_literalText?_of_fraction {value : ℚ} (value_eq : number.toRat? = some value)
    (notWhole : ∀ whole : Int, value ≠ whole) :
    ∃ decimal, number.shortest? = some decimal ∧ decimal.exponent < 0 ∧ decimal.units ≠ 0 ∧
      number.literalText? = some (signText decimal.negative ++ decimal.positional) := by
  have isFinite : number.isFinite = true := by
    cases number with
    | finite _ _ _ _ => rfl
    | infinite _ | nan => contradiction
  have toInt?_eq : number.toInt? = none := by
    cases isWhole : number.toInt? with
    | none => rfl
    | some whole =>
        have same := value_eq.symm.trans (Binary64.toRat?_of_toInt? isWhole)
        exact absurd (Option.some.inj same) (notWhole whole)
  obtain ⟨decimal, shortest⟩ := Option.isSome_iff_exists.mp (number.isSome_shortest?.trans isFinite)
  have isFraction := Binary64.exponent_neg_of_shortest? shortest toInt?_eq
  refine ⟨decimal, shortest, isFraction, fun noUnits => ?_, ?_⟩
  · exact isFraction.ne (Binary64.exponent_of_shortest? shortest noUnits)
  · rw [Binary64.literalText?, toInt?_eq, shortest]
    rfl

/--
The text of a finite number is taken as a whole by the pattern of numbers and has no exponent.  That
of a whole number denotes it exactly, has no point and no zero in front of other digits, and is one
zero for both zeros.  That of another number denotes the decimal of the plain text, with the same
units and the same power of ten, so that no digit is lost or added.  Other numbers are refused.
-/
theorem number_text_is_exact (number : Binary64) :
    (∀ value, number.toRat? = some value →
      ∃ text decimal, numberText number = .ok text ∧
        numberPattern.matchEnd? 0 text.toList = some text.toList.length ∧
        ('e' ∉ text.toList ∧ 'E' ∉ text.toList) ∧
        Decimal.read text.toList = some decimal ∧
        (∀ whole : Int, value = whole →
          decimal.toRat = value ∧ (whole = 0 → text = "0") ∧
            ∃ digits, text.toList = signText (decide (whole < 0)) ++ digits ∧
              digits.all isDigit = true ∧ (digits.head? = some '0' → digits = ['0'])) ∧
        ((∀ whole : Int, value ≠ whole) →
          Decimal.read number.plainText = some decimal ∧ decimal.toBinary64 = number)) ∧
      (number.toRat? = none →
        numberText number =
          .error (unserializable s!"number {number.text} has no literal form")) := by
  constructor
  · intro value value_eq
    by_cases isWhole : ∃ whole : Int, value = whole
    · obtain ⟨whole, rfl⟩ := isWhole
      have text_eq := literalText?_of_whole value_eq
      obtain ⟨written, taken, noMark⟩ := written_of_literalText? text_eq
      refine ⟨_, ⟨decide (whole < 0), whole.natAbs, 0⟩, written, ?_⟩
      rw [String.toList_ofList]
      refine ⟨taken, noMark, Decimal.read_integerText whole, fun other same => ?_,
        fun notWhole => ?_⟩
      · obtain rfl : whole = other := Int.cast_injective same
        refine ⟨Decimal.toRat_integer whole, ?_, exists_digits_integerText whole⟩
        rintro rfl
        rfl
      · exact absurd rfl (notWhole whole)
    · have notWhole : ∀ whole : Int, value ≠ whole := fun whole same => isWhole ⟨whole, same⟩
      obtain ⟨decimal, shortest, isFraction, units_ne, text_eq⟩ :=
        exists_literalText?_of_fraction value_eq notWhole
      obtain ⟨written, taken, noMark⟩ := written_of_literalText? text_eq
      refine ⟨_, decimal, written, ?_⟩
      rw [String.toList_ofList]
      refine ⟨taken, noMark, Decimal.read_positional isFraction units_ne, fun whole same => ?_,
        fun _ => ?_⟩
      · exact absurd same (notWhole whole)
      · rw [Binary64.plainText_of_shortest? shortest]
        exact ⟨Decimal.read_plainText isFraction units_ne,
          Binary64.toBinary64_of_shortest? shortest⟩
  · intro notFinite
    cases number with
    | finite _ _ _ _ => contradiction
    | infinite _ | nan => rfl

/-- The exponent of a small fraction is expanded, and the sign of a zero is not written. -/
theorem number_text_of_small_fraction :
    let small := Binary64.finite true 5802843934150220 (-85) (by decide)
    (∃ value decimal, small.toRat? = some value ∧ (∀ whole : Int, value ≠ whole) ∧
      numberText small = .ok "-0.00000000015" ∧ small.plainText = "-1.5e-10".toList ∧
      numberPattern.matchEnd? 0 "-0.00000000015".toList = some 14 ∧
      Decimal.read "-0.00000000015".toList = some decimal ∧
      Decimal.read small.plainText = some decimal ∧ decimal.toBinary64 = small) ∧
      (∃ value : ℚ, (Binary64.zero true).toRat? = some value ∧ value = (0 : Int) ∧
        numberText (Binary64.zero true) = .ok "0") ∧
      (Binary64.infinite true).toRat? = none ∧
      numberText (.infinite true) = .error (unserializable "number -inf has no literal form") := by
  intro small
  have small_text : small.literalText? = some "-0.00000000015".toList := by decide +kernel
  have small_plain : small.plainText = "-1.5e-10".toList := by decide +kernel
  refine ⟨?_, ?_, rfl, (number_text_is_exact (.infinite true)).2 rfl⟩
  · obtain ⟨text, decimal, written, taken, -, read, -, fraction⟩ :=
      (number_text_is_exact small).1 _ rfl
    have text_eq : numberText small = .ok "-0.00000000015" := by
      rw [numberText, small_text]
      rfl
    obtain rfl : "-0.00000000015" = text := Except.ok.inj (text_eq.symm.trans written)
    have notWhole (whole : Int) : -((5802843934150220 : Nat) * twoPower (-85)) ≠ whole := by
      intro same
      have denominator := congrArg Rat.den same
      rw [Rat.den_intCast] at denominator
      revert denominator
      decide +kernel
    obtain ⟨plain_read, rounded⟩ := fraction notWhole
    exact ⟨_, decimal, rfl, notWhole, text_eq, small_plain, taken, read, plain_read, rounded⟩
  · obtain ⟨text, decimal, written, -, -, -, whole, -⟩ :=
      (number_text_is_exact (Binary64.zero true)).1 0 (by decide +kernel)
    obtain ⟨-, text_eq, -⟩ := whole 0 rfl
    exact ⟨0, by decide +kernel, rfl, text_eq rfl ▸ written⟩

end Call
end Descent
