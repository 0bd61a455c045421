import Mathlib.Tactic.Ring
import Descent.Call.Printer
import Descent.Proofs.Call.Token
import Descent.Proofs.Number.Shortest

/-!
# Literals of floating-point numbers

The literal text of a finite number is a number literal of the grammar.  It is read as the same
number, but for the sign of a zero, which is not written.
-/

namespace Descent
namespace Call

/-- The sign that is written for a number. -/
def minusSign (negative : Bool) : Option Char := if negative then some '-' else none

theorem minusSign_mem (negative : Bool) :
    ∀ character ∈ minusSign negative, character = '+' ∨ character = '-' := by
  cases negative with
  | false => exact nofun
  | true =>
      rintro character ⟨rfl⟩
      exact .inr rfl

theorem toList_minusSign (negative : Bool) : (minusSign negative).toList = signText negative := by
  cases negative <;> rfl

/-- The literal of a sign and digits without a fraction. -/
def Literal.ofDigits (negative : Bool) (digits : List Char) (nonempty : digits ≠ [])
    (all : digits.all isDigit = true) : Literal where
  sign := minusSign negative
  whole := digits
  fraction := none
  sign_mem := minusSign_mem negative
  whole_ne_nil := nonempty
  all_whole := all
  all_fraction := nofun

/-- The literal of a sign and digits on both sides of a point. -/
def Literal.ofFraction (negative : Bool) (whole fraction : List Char) (nonempty : whole ≠ [])
    (all : (whole ++ fraction).all isDigit = true) : Literal where
  sign := minusSign negative
  whole := whole
  fraction := some fraction
  sign_mem := minusSign_mem negative
  whole_ne_nil := nonempty
  all_whole := by
    rw [List.all_append, Bool.and_eq_true] at all
    exact all.1
  all_fraction := by
    rintro digits ⟨rfl⟩
    rw [List.all_append, Bool.and_eq_true] at all
    exact all.2

theorem Literal.number_ofDigits (negative : Bool) (digits : List Char) (nonempty : digits ≠ [])
    (all : digits.all isDigit = true) :
    (ofDigits negative digits nonempty all).number =
      Binary64.nearest negative (digitsValue digits : ℚ) := by
  have decimal_eq : (ofDigits negative digits nonempty all).decimal =
      ⟨negative, digitsValue digits, 0⟩ := by
    cases negative <;> simp [decimal, ofDigits, minusSign]
  rw [number, decimal_eq, Decimal.toBinary64, Decimal.magnitude, tenPower_eq_zpow, zpow_zero,
    mul_one]

theorem Literal.number_ofFraction (negative : Bool) (whole fraction : List Char)
    (nonempty : whole ≠ []) (all : (whole ++ fraction).all isDigit = true) :
    (ofFraction negative whole fraction nonempty all).number =
      Decimal.toBinary64
        ⟨negative, digitsValue (whole ++ fraction), -(fraction.length : Int)⟩ := by
  cases negative <;> simp [number, decimal, ofFraction, minusSign]

theorem Literal.text_ofDigits (negative : Bool) (digits : List Char) (nonempty : digits ≠ [])
    (all : digits.all isDigit = true) :
    (ofDigits negative digits nonempty all).text = signText negative ++ digits := by
  simp [text, ofDigits, toList_minusSign, fractionText]

theorem Literal.text_ofFraction (negative : Bool) (whole fraction : List Char)
    (nonempty : whole ≠ []) (all : (whole ++ fraction).all isDigit = true) :
    (ofFraction negative whole fraction nonempty all).text =
      signText negative ++ (whole ++ '.' :: fraction) := by
  simp [text, ofFraction, toList_minusSign, fractionText]

/-- The positional notation of a decimal is a literal for the nearest number. -/
theorem exists_literal_positional (decimal : Decimal) :
    ∃ literal : Literal, literal.text = signText decimal.negative ++ decimal.positional ∧
      literal.number = decimal.toBinary64 := by
  have digits_all := all_digitsOf decimal.units
  have digits_ne := digitsOf_ne_nil decimal.units
  have units_eq := digitsValue_digitsOf decimal.units
  rw [Decimal.positional]
  generalize digitsOf decimal.units = digits at digits_all digits_ne units_eq
  split
  · rename_i nonneg
    have all : (digits ++ List.replicate decimal.exponent.toNat '0').all isDigit = true := by
      rw [List.all_append, digits_all, all_zeros, Bool.and_self]
    have nonempty : digits ++ List.replicate decimal.exponent.toNat '0' ≠ [] :=
      fun empty => digits_ne (List.append_eq_nil_iff.mp empty).1
    refine ⟨.ofDigits decimal.negative _ nonempty all, Literal.text_ofDigits .., ?_⟩
    rw [Literal.number_ofDigits, digitsValue_append_zeros, units_eq, Decimal.toBinary64,
      Decimal.magnitude, tenPower_eq_zpow]
    push_cast
    rw [← zpow_natCast, Int.toNat_of_nonneg nonneg]
  · rename_i negative_exponent
    have places_eq : -((-decimal.exponent).toNat : Int) = decimal.exponent := by omega
    generalize (-decimal.exponent).toNat = places at places_eq
    dsimp only
    split
    · rename_i inside
      have all : (digits.take (digits.length - places) ++
          digits.drop (digits.length - places)).all isDigit = true := by
        rw [List.take_append_drop, digits_all]
      have nonempty : digits.take (digits.length - places) ≠ [] := by
        rw [← List.length_pos_iff, List.length_take]
        omega
      refine ⟨.ofFraction decimal.negative _ _ nonempty all, Literal.text_ofFraction .., ?_⟩
      have length_eq : (digits.drop (digits.length - places)).length = places := by
        rw [List.length_drop]
        omega
      rw [Literal.number_ofFraction, List.take_append_drop, units_eq, length_eq, places_eq]
    · rename_i outside
      have all : (['0'] ++ (List.replicate (places - digits.length) '0' ++ digits)).all isDigit =
          true := by
        rw [List.all_append, List.all_append, digits_all, all_zeros]
        rfl
      refine ⟨.ofFraction decimal.negative _ _ (List.cons_ne_nil _ _) all,
        Literal.text_ofFraction .., ?_⟩
      have length_eq : (List.replicate (places - digits.length) '0' ++ digits).length = places := by
        rw [List.length_append, List.length_replicate]
        omega
      have zero_append := digitsValue_zeros_append 1
        (List.replicate (places - digits.length) '0' ++ digits)
      rw [List.replicate_one, digitsValue_zeros_append, units_eq] at zero_append
      rw [Literal.number_ofFraction, zero_append, length_eq, places_eq]

/-- The text of an integer is a literal for the nearest number. -/
theorem exists_literal_integer (whole : Int) :
    ∃ literal : Literal, literal.text = integerText whole ∧
      literal.number = Binary64.nearest (decide (whole < 0)) (whole.natAbs : ℚ) := by
  refine ⟨.ofDigits (decide (whole < 0)) _ (digitsOf_ne_nil whole.natAbs)
    (all_digitsOf whole.natAbs), ?_, ?_⟩
  · rw [Literal.text_ofDigits, integerText]
    split <;> simp_all [signText]
  · rw [Literal.number_ofDigits, digitsValue_digitsOf]

/-- A finite number that is an integer is nearest to it, but for the sign of a zero. -/
theorem unsignedZero_nearest_natAbs {number : Binary64} {whole : Int}
    (isWhole : number.toInt? = some whole) :
    (Binary64.nearest (decide (whole < 0)) (whole.natAbs : ℚ)).unsignedZero =
      number.unsignedZero := by
  have value_eq := Binary64.toRat?_of_toInt? isWhole
  cases number with
  | infinite _ | nan => contradiction
  | finite negative significand exponent canonical =>
      have nonneg := Binary64.magnitude_nonneg significand exponent
      have signed := Option.some.inj value_eq
      have absolute : (whole.natAbs : ℚ) = (significand : ℚ) * twoPower exponent := by
        rw [Nat.cast_natAbs, Int.cast_abs, ← signed]
        split
        · rw [abs_neg, abs_of_nonneg nonneg]
        · exact abs_of_nonneg nonneg
      rw [absolute, Binary64.nearest_magnitude _ canonical]
      apply Binary64.unsignedZero_eq_of_toRat? rfl rfl
      rw [value_eq, Binary64.toRat?]
      rw [← absolute, Nat.cast_natAbs]
      congr 1
      by_cases below : whole < 0
      · rw [decide_eq_true below, if_pos rfl, abs_of_neg below]
        push_cast
        ring
      · rw [decide_eq_false below, if_neg (by decide), abs_of_nonneg (by omega)]

/-- The literal text of a number is a literal that is read as the number, but for a zero's sign. -/
theorem exists_literal_of_literalText? {number : Binary64} {characters : List Char}
    (text_eq : number.literalText? = some characters) :
    ∃ literal : Literal, literal.text = characters ∧
      literal.number.unsignedZero = number.unsignedZero := by
  rw [Binary64.literalText?] at text_eq
  split at text_eq
  · rename_i whole isWhole
    obtain rfl := Option.some.inj text_eq
    obtain ⟨literal, literal_text, literal_number⟩ := exists_literal_integer whole
    exact ⟨literal, literal_text, by rw [literal_number, unsignedZero_nearest_natAbs isWhole]⟩
  · obtain ⟨decimal, shortest, rfl⟩ := Option.map_eq_some_iff.mp text_eq
    obtain ⟨literal, literal_text, literal_number⟩ := exists_literal_positional decimal
    exact ⟨literal, literal_text,
      by rw [literal_number, Binary64.toBinary64_of_shortest? shortest]⟩

/-- Only finite numbers have a literal text. -/
theorem isFinite_of_literalText? {number : Binary64} {characters : List Char}
    (text_eq : number.literalText? = some characters) : number.isFinite = true := by
  cases number with
  | finite _ _ _ _ => rfl
  | infinite _ | nan => contradiction

/-- The sign of a zero is not written. -/
theorem numberText_unsignedZero (number : Binary64) :
    numberText number.unsignedZero = numberText number := by
  cases number with
  | infinite _ | nan => rfl
  | finite negative significand exponent canonical =>
      by_cases zero_eq : significand = 0
      · have whole (sign : Bool) :
            (Binary64.finite sign significand exponent canonical).toInt? = some 0 := by
          simp [Binary64.toInt?, Binary64.toRat?, zero_eq]
        simp only [numberText, Binary64.literalText?, Binary64.unsignedZero, whole]
      · rw [Binary64.unsignedZero_of_ne_zero canonical zero_eq]

end Call
end Descent
