import Mathlib.Data.List.TakeWhile
import Descent.Call.Grammar
import Descent.Proofs.Pattern.Greedy

/-!
# Identifiers and number literals

The two kinds of words in call expressions, each with its parts, and the longest word at the front
of a text.  The patterns of the grammar take exactly that word.
-/

namespace Descent
namespace Call

/-! ## Characters -/

theorem contains_letters : letters.contains = isLetter := by
  funext character
  simp [CharSet.contains, letters, isLetter, Bool.or_comm]

/-- A letter or a digit. -/
def isNameCharacter (character : Char) : Bool := isLetter character || isDigit character

theorem contains_lettersAndDigits : lettersAndDigits.contains = isNameCharacter := by
  funext character
  simp [CharSet.contains, lettersAndDigits, isNameCharacter, isLetter, isDigit, Bool.or_assoc,
    Bool.or_left_comm]

theorem contains_digits : digits.contains = isDigit := by
  funext character
  simp [CharSet.contains, digits, isDigit]

theorem between_self_iff (symbol character : Char) :
    symbol ≤ character ∧ character ≤ symbol ↔ character = symbol :=
  ⟨fun between => Char.le_antisymm between.2 between.1, fun same => by simp [same]⟩

theorem contains_single (symbol character : Char) :
    (CharSet.single symbol).contains character = decide (character = symbol) := by
  rw [Bool.eq_iff_iff]
  simp [CharSet.contains, CharSet.single, between_self_iff]

theorem contains_signs (character : Char) :
    signs.contains character = decide (character = '+' ∨ character = '-') := by
  rw [Bool.eq_iff_iff]
  simp [CharSet.contains, signs, between_self_iff]

theorem isLetter_eq_false_of_isDigit {character : Char} (digit : isDigit character = true) :
    isLetter character = false := by
  simp only [isDigit, Bool.and_eq_true, decide_eq_true_eq, Char.le_def] at digit
  simp only [isLetter, Bool.or_eq_false_iff, Bool.and_eq_false_imp, decide_eq_true_eq,
    decide_eq_false_iff_not, Char.le_def]
  grind

/-- A text does not begin with a character that passes a test. -/
def HeadFails (test : Char → Bool) (text : List Char) : Prop :=
  ∀ character ∈ text.head?, test character = false

theorem headFails_cons {test : Char → Bool} {character : Char} (fails : test character = false)
    (rest : List Char) : HeadFails test (character :: rest) := by
  rintro _ ⟨rfl⟩
  exact fails

theorem takeWhile_of_headFails {test : Char → Bool} {text : List Char}
    (fails : HeadFails test text) : text.takeWhile test = [] := by
  cases text with
  | nil => rfl
  | cons character text => exact List.takeWhile_cons_of_neg (by simp [fails character rfl])

theorem dropWhile_of_headFails {test : Char → Bool} {text : List Char}
    (fails : HeadFails test text) : text.dropWhile test = text := by
  cases text with
  | nil => rfl
  | cons character text => exact List.dropWhile_cons_of_neg (by simp [fails character rfl])

theorem headFails_dropWhile (test : Char → Bool) (text : List Char) :
    HeadFails test (text.dropWhile test) := by
  induction text with
  | nil => simp [HeadFails]
  | cons character text induction =>
      by_cases passes : test character
      · rwa [List.dropWhile_cons_of_pos passes]
      · rw [List.dropWhile_cons_of_neg passes]
        simp [HeadFails, passes]

/-! ## Identifiers -/

/-- A letter and any letters and digits. -/
@[ext]
structure Identifier where
  first : Char
  others : List Char
  isLetter_first : isLetter first = true
  all_others : others.all isNameCharacter = true

namespace Identifier

/-- The characters of an identifier. -/
def text (identifier : Identifier) : List Char := identifier.first :: identifier.others

/-- The longest identifier at the front of a text, and the text after it. -/
def split? : List Char → Option (Identifier × List Char)
  | [] => none
  | first :: rest =>
      if letter : isLetter first = true then
        some
          (⟨first, rest.takeWhile isNameCharacter, letter, List.all_takeWhile⟩,
            rest.dropWhile isNameCharacter)
      else none

theorem split?_cons {first : Char} (letter : isLetter first = true) (rest : List Char) :
    split? (first :: rest) =
      some
        (⟨first, rest.takeWhile isNameCharacter, letter, List.all_takeWhile⟩,
          rest.dropWhile isNameCharacter) :=
  dif_pos letter

theorem split?_eq_none_iff (characters : List Char) :
    split? characters = none ↔ HeadFails isLetter characters := by
  cases characters with
  | nil => simp [split?, HeadFails]
  | cons first rest =>
      by_cases letter : isLetter first = true
      · simp [split?_cons letter, HeadFails, letter]
      · simp [split?, HeadFails, letter]

theorem eq_append_of_split? {characters rest : List Char} {identifier : Identifier}
    (split : split? characters = some (identifier, rest)) :
    characters = identifier.text ++ rest ∧ HeadFails isNameCharacter rest := by
  cases characters with
  | nil => simp [split?] at split
  | cons first others =>
      by_cases letter : isLetter first = true
      · rw [split?_cons letter] at split
        obtain ⟨rfl, rfl⟩ := Prod.mk.inj (Option.some.inj split)
        exact ⟨by simp [text], headFails_dropWhile _ _⟩
      · simp [split?, letter] at split

/-- An identifier at the front of a text is part of the longest one, and all of it if it ends. -/
theorem exists_split?_append (identifier : Identifier) (rest : List Char) :
    ∃ longer after,
      split? (identifier.text ++ rest) = some (longer, after) ∧
        identifier.text.length ≤ longer.text.length ∧
          (HeadFails isNameCharacter rest → longer = identifier ∧ after = rest) := by
  have members := List.all_eq_true.mp identifier.all_others
  refine ⟨_, _, split?_cons identifier.isLetter_first (identifier.others ++ rest), ?_, ?_⟩
  · simp [text, List.takeWhile_append_of_pos members]
  · intro ends
    refine ⟨Identifier.ext rfl ?_, ?_⟩
    · simp [List.takeWhile_append_of_pos members, takeWhile_of_headFails ends]
    · rw [List.dropWhile_append_of_pos members, dropWhile_of_headFails ends]

theorem split?_append (identifier : Identifier) {rest : List Char}
    (ends : HeadFails isNameCharacter rest) :
    split? (identifier.text ++ rest) = some (identifier, rest) := by
  obtain ⟨longer, after, split, _, same⟩ := identifier.exists_split?_append rest
  obtain ⟨rfl, rfl⟩ := same ends
  exact split

end Identifier

/-- The pattern of identifiers takes the longest identifier. -/
theorem matchEnd?_identifierPattern (offset : Nat) (characters : List Char) :
    identifierPattern.matchEnd? offset characters =
      (Identifier.split? characters).map fun parts => offset + parts.1.text.length := by
  cases characters with
  | nil => rfl
  | cons first rest =>
      simp only [Pattern.matchEnd?, identifierPattern, Pattern.matchThen, contains_letters]
      by_cases letter : isLetter first = true
      · have run := Pattern.matchThen_run lettersAndDigits 0 (offset + 1) rest Pattern.always_some
        simp only [Pattern.matchThen, Nat.zero_le, if_true, contains_lettersAndDigits] at run
        rw [if_pos letter, run, Identifier.split?_cons letter]
        simp only [Identifier.text, Option.map_some, List.length_cons]
        congr 1
        omega
      · simp [Identifier.split?, letter]

/-! ## Number literals -/

/-- The text of an optional fraction: a point and its digits, if there is one. -/
def fractionText : Option (List Char) → List Char
  | none => []
  | some digits => '.' :: digits

/-- An optional sign, digits, and an optional point with any digits. -/
@[ext]
structure Literal where
  sign : Option Char
  whole : List Char
  fraction : Option (List Char)
  sign_mem : ∀ character ∈ sign, character = '+' ∨ character = '-'
  whole_ne_nil : whole ≠ []
  all_whole : whole.all isDigit = true
  all_fraction : ∀ digits ∈ fraction, digits.all isDigit = true

/-- An optional sign at the front of a text, and the text after it. -/
def splitSign : List Char → Option Char × List Char
  | [] => (none, [])
  | character :: rest =>
      if character = '+' ∨ character = '-' then (some character, rest)
      else (none, character :: rest)

/-- An optional fraction at the front of a text, and the text after it. -/
def splitFraction : List Char → Option (List Char) × List Char
  | [] => (none, [])
  | character :: rest =>
      if character = '.' then (some (rest.takeWhile isDigit), rest.dropWhile isDigit)
      else (none, character :: rest)

theorem splitSign_mem (characters : List Char) :
    ∀ character ∈ (splitSign characters).1, character = '+' ∨ character = '-' := by
  unfold splitSign
  split
  · simp
  · split <;> simp_all

theorem splitSign_append (characters : List Char) :
    (splitSign characters).1.toList ++ (splitSign characters).2 = characters := by
  unfold splitSign
  split
  · rfl
  · split <;> simp

theorem splitSign_of_digit {character : Char} (digit : isDigit character = true)
    (rest : List Char) : splitSign (character :: rest) = (none, character :: rest) := by
  refine if_neg ?_
  rintro (rfl | rfl) <;> simp [isDigit] at digit

theorem splitFraction_all (characters : List Char) :
    ∀ digits ∈ (splitFraction characters).1, digits.all isDigit = true := by
  unfold splitFraction
  split
  · simp
  · split
    · rintro digits ⟨rfl⟩
      exact List.all_takeWhile
    · simp

theorem splitFraction_append (characters : List Char) :
    fractionText (splitFraction characters).1 ++ (splitFraction characters).2 = characters := by
  unfold splitFraction
  split
  · rfl
  · split <;> simp_all [fractionText]

theorem splitFraction_of_ne_point {characters : List Char}
    (noPoint : ∀ character ∈ characters.head?, character ≠ '.') :
    splitFraction characters = (none, characters) := by
  cases characters with
  | nil => rfl
  | cons character rest => exact if_neg (noPoint character rfl)

/-- A number cannot go on with a text. -/
def NumberEnds (rest : List Char) : Prop :=
  ∀ character ∈ rest.head?, isDigit character = false ∧ character ≠ '.'

theorem headFails_fractionText (fraction : Option (List Char)) {rest : List Char}
    (ends : NumberEnds rest) : HeadFails isDigit (fractionText fraction ++ rest) := by
  cases fraction with
  | none => exact fun character head => (ends character head).1
  | some digits => exact headFails_cons rfl _

theorem splitFraction_fractionText {fraction : Option (List Char)}
    (all : ∀ digits ∈ fraction, digits.all isDigit = true) {rest : List Char}
    (ends : NumberEnds rest) :
    splitFraction (fractionText fraction ++ rest) = (fraction, rest) := by
  cases fraction with
  | none => exact splitFraction_of_ne_point fun character head => (ends character head).2
  | some digits =>
      have members := List.all_eq_true.mp (all digits rfl)
      have stops : HeadFails isDigit rest := fun character head => (ends character head).1
      simp only [fractionText, List.cons_append, splitFraction, if_true]
      rw [List.takeWhile_append_of_pos members, List.dropWhile_append_of_pos members,
        takeWhile_of_headFails stops, dropWhile_of_headFails stops, List.append_nil]

theorem length_fractionText_le {fraction : Option (List Char)}
    (all : ∀ digits ∈ fraction, digits.all isDigit = true) (rest : List Char) :
    (fractionText fraction).length ≤
      ((fractionText fraction ++ rest).takeWhile isDigit).length +
        (fractionText
          (splitFraction ((fractionText fraction ++ rest).dropWhile isDigit)).1).length := by
  cases fraction with
  | none => exact Nat.zero_le _
  | some digits =>
      have members := List.all_eq_true.mp (all digits rfl)
      have point : HeadFails isDigit (fractionText (some digits) ++ rest) := headFails_cons rfl _
      rw [dropWhile_of_headFails point]
      simp only [fractionText, List.cons_append, splitFraction, if_true]
      rw [List.takeWhile_append_of_pos members]
      simp only [List.length_cons, List.length_append]
      omega

namespace Literal

/-- The characters of a literal. -/
def text (literal : Literal) : List Char :=
  literal.sign.toList ++ (literal.whole ++ fractionText literal.fraction)

/-- The literal of a sign and of the digits and the fraction at the front of a text. -/
def ofParts (sign : Option Char) (unsigned : List Char)
    (sign_mem : ∀ character ∈ sign, character = '+' ∨ character = '-')
    (digits : unsigned.takeWhile isDigit ≠ []) : Literal where
  sign := sign
  whole := unsigned.takeWhile isDigit
  fraction := (splitFraction (unsigned.dropWhile isDigit)).1
  sign_mem := sign_mem
  whole_ne_nil := digits
  all_whole := List.all_takeWhile
  all_fraction := splitFraction_all _

/-- The longest literal at the front of a text, and the text after it. -/
def split? (characters : List Char) : Option (Literal × List Char) :=
  let unsigned := (splitSign characters).2
  if digits : unsigned.takeWhile isDigit ≠ [] then
    some
      (ofParts (splitSign characters).1 unsigned (splitSign_mem characters) digits,
        (splitFraction (unsigned.dropWhile isDigit)).2)
  else none

theorem split?_of_splitSign {characters unsigned : List Char} {sign : Option Char}
    (signed : splitSign characters = (sign, unsigned))
    (digits : unsigned.takeWhile isDigit ≠ []) :
    split? characters =
      some
        (ofParts sign unsigned (fun character mem => splitSign_mem characters character
          (by rwa [signed])) digits, (splitFraction (unsigned.dropWhile isDigit)).2) := by
  obtain ⟨rfl, rfl⟩ := Prod.mk.inj signed.symm
  exact dif_pos digits

theorem split?_eq_none_iff (characters : List Char) :
    split? characters = none ↔ (splitSign characters).2.takeWhile isDigit = [] := by
  unfold split?
  by_cases digits : (splitSign characters).2.takeWhile isDigit = [] <;> simp [digits]

theorem eq_append_of_split? {characters rest : List Char} {literal : Literal}
    (split : split? characters = some (literal, rest)) :
    characters = literal.text ++ rest := by
  have signed := splitSign_append characters
  by_cases digits : (splitSign characters).2.takeWhile isDigit = []
  · rw [(split?_eq_none_iff characters).mpr digits] at split
    contradiction
  · rw [split?, dif_pos digits] at split
    obtain ⟨rfl, rfl⟩ := Prod.mk.inj (Option.some.inj split)
    rw [text, ofParts, List.append_assoc, List.append_assoc, splitFraction_append,
      List.takeWhile_append_dropWhile, signed]

theorem splitSign_text_append (literal : Literal) (rest : List Char) :
    splitSign (literal.text ++ rest) =
      (literal.sign, literal.whole ++ (fractionText literal.fraction ++ rest)) := by
  obtain ⟨sign, whole, fraction, sign_mem, whole_ne_nil, all_whole, all_fraction⟩ := literal
  cases sign with
  | some character => simp [text, splitSign, sign_mem character rfl]
  | none =>
      obtain ⟨digit, others, rfl⟩ := List.exists_cons_of_ne_nil whole_ne_nil
      have isDigit_digit := List.all_eq_true.mp all_whole digit List.mem_cons_self
      simp [text, splitSign_of_digit isDigit_digit]

theorem takeWhile_whole_append (literal : Literal) (rest : List Char) :
    (literal.whole ++ rest).takeWhile isDigit = literal.whole ++ rest.takeWhile isDigit :=
  List.takeWhile_append_of_pos (List.all_eq_true.mp literal.all_whole)

theorem dropWhile_whole_append (literal : Literal) (rest : List Char) :
    (literal.whole ++ rest).dropWhile isDigit = rest.dropWhile isDigit :=
  List.dropWhile_append_of_pos (List.all_eq_true.mp literal.all_whole)

theorem split?_text_append (literal : Literal) (rest : List Char) :
    ∃ longer,
      split? (literal.text ++ rest) =
          some (longer,
            (splitFraction ((fractionText literal.fraction ++ rest).dropWhile isDigit)).2) ∧
        longer.sign = literal.sign ∧
        longer.whole =
          literal.whole ++ (fractionText literal.fraction ++ rest).takeWhile isDigit ∧
        longer.fraction =
          (splitFraction ((fractionText literal.fraction ++ rest).dropWhile isDigit)).1 := by
  have digits :
      (literal.whole ++ (fractionText literal.fraction ++ rest)).takeWhile isDigit ≠ [] := by
    rw [takeWhile_whole_append]
    exact fun empty => literal.whole_ne_nil (List.append_eq_nil_iff.mp empty).1
  refine ⟨ofParts literal.sign _ literal.sign_mem digits, ?_, rfl, ?_, ?_⟩
  · rw [split?_of_splitSign (literal.splitSign_text_append rest) digits, dropWhile_whole_append]
  · exact literal.takeWhile_whole_append _
  · exact congrArg (fun after => (splitFraction after).1) (literal.dropWhile_whole_append _)

/-- A literal at the front of a text is all of the longest one if the number ends after it. -/
theorem split?_append (literal : Literal) {rest : List Char} (ends : NumberEnds rest) :
    split? (literal.text ++ rest) = some (literal, rest) := by
  obtain ⟨longer, split, sign_eq, whole_eq, fraction_eq⟩ := literal.split?_text_append rest
  have stops := headFails_fractionText literal.fraction ends
  rw [takeWhile_of_headFails stops, List.append_nil] at whole_eq
  rw [dropWhile_of_headFails stops, splitFraction_fractionText literal.all_fraction ends] at split
  rw [dropWhile_of_headFails stops,
    splitFraction_fractionText literal.all_fraction ends] at fraction_eq
  rw [split, Literal.ext sign_eq whole_eq fraction_eq]

/-- A literal at the front of a text is part of the longest one. -/
theorem exists_split?_append (literal : Literal) (rest : List Char) :
    ∃ longer after,
      split? (literal.text ++ rest) = some (longer, after) ∧
        literal.text.length ≤ longer.text.length := by
  obtain ⟨longer, split, sign_eq, whole_eq, fraction_eq⟩ := literal.split?_text_append rest
  have fractions := length_fractionText_le literal.all_fraction rest
  refine ⟨longer, _, split, ?_⟩
  simp only [text, sign_eq, whole_eq, fraction_eq, List.length_append]
  omega

/-- The exact decimal that a literal spells. -/
def decimal (literal : Literal) : Decimal :=
  ⟨decide (literal.sign = some '-'), digitsValue (literal.whole ++ literal.fraction.getD []),
    -((literal.fraction.getD []).length : Int)⟩

/-- The number nearest to the decimal that a literal spells. -/
def number (literal : Literal) : Binary64 := literal.decimal.toBinary64

end Literal

theorem matchThen_fraction (offset : Nat) (characters : List Char) :
    Pattern.matchThen (.repeated fractionPattern 0 (some 1) true) (fun stop _ => some stop) offset
        characters =
      some (offset + (fractionText (splitFraction characters).1).length) := by
  rw [Pattern.matchThen_optional]
  cases characters with
  | nil => simp [fractionPattern, Pattern.matchThen, splitFraction, fractionText]
  | cons character rest =>
      have run := Pattern.matchThen_run digits 0 (offset + 1) rest Pattern.always_some
      rw [if_pos (Nat.zero_le _), contains_digits] at run
      simp only [fractionPattern, Pattern.matchThen, contains_single] at run ⊢
      by_cases point : character = '.'
      · simp only [point, splitFraction, decide_true, if_true, run, Option.some_or, fractionText,
          List.length_cons]
        congr 1
        omega
      · simp [point, splitFraction, fractionText]

theorem matchThen_unsigned (offset : Nat) (characters : List Char) :
    Pattern.matchThen (.concat (.run digits 1 none) (.repeated fractionPattern 0 (some 1) true))
        (fun stop _ => some stop) offset characters =
      if characters.takeWhile isDigit = [] then none
      else
        some
          (offset + (characters.takeWhile isDigit).length +
            (fractionText (splitFraction (characters.dropWhile isDigit)).1).length) := by
  have always : Pattern.Always
      (Pattern.matchThen (.repeated fractionPattern 0 (some 1) true) fun stop _ => some stop) := by
    intro start rest
    rw [matchThen_fraction]
    rfl
  rw [Pattern.matchThen, Pattern.matchThen_run digits 1 offset characters always, contains_digits,
    matchThen_fraction]
  by_cases empty : characters.takeWhile isDigit = []
  · simp [empty]
  · have long : 1 ≤ (characters.takeWhile isDigit).length := List.length_pos_iff.mpr empty
    rw [if_pos long, if_neg empty]

theorem map_split? (offset : Nat) (characters : List Char) :
    ((Literal.split? characters).map fun parts => offset + parts.1.text.length) =
      Pattern.matchThen
        (.concat (.run digits 1 none) (.repeated fractionPattern 0 (some 1) true))
        (fun stop _ => some stop) (offset + (splitSign characters).1.toList.length)
        (splitSign characters).2 := by
  rw [matchThen_unsigned]
  by_cases empty : (splitSign characters).2.takeWhile isDigit = []
  · rw [(Literal.split?_eq_none_iff characters).mpr empty, if_pos empty, Option.map_none]
  · rw [Literal.split?, dif_pos empty, if_neg empty, Option.map_some]
    simp only [Literal.text, Literal.ofParts, List.length_append]
    congr 1
    omega

/-- The pattern of numbers takes the longest literal. -/
theorem matchEnd?_numberPattern (offset : Nat) (characters : List Char) :
    numberPattern.matchEnd? offset characters =
      (Literal.split? characters).map fun parts => offset + parts.1.text.length := by
  rw [map_split?, Pattern.matchEnd?, numberPattern, Pattern.matchThen]
  cases characters with
  | nil => rfl
  | cons character rest =>
      by_cases signed : character = '+' ∨ character = '-'
      · have member : signs.contains character = true := by simp [contains_signs, signed]
        have noDigit : (character :: rest).takeWhile isDigit = [] := by
          rcases signed with rfl | rfl <;> rfl
        rw [Pattern.matchThen_run_one_cons member, matchThen_unsigned offset, if_pos noDigit,
          Option.or_none]
        simp [splitSign, signed]
      · have outside : ∀ head ∈ (character :: rest).head?, signs.contains head = false := by
          rintro head ⟨rfl⟩
          simp [contains_signs, signed]
        rw [Pattern.matchThen_run_one_of_not_mem outside]
        simp [splitSign, signed]

/-- Digits have no sign in front. -/
theorem decimalSplitSign_of_digit {character : Char} (digit : isDigit character = true)
    (rest : List Char) : Decimal.splitSign (character :: rest) = (false, character :: rest) := by
  have notMinus : character ≠ '-' := by rintro rfl; simp [isDigit] at digit
  have notPlus : character ≠ '+' := by rintro rfl; simp [isDigit] at digit
  simp [Decimal.splitSign, notMinus, notPlus]

theorem decimalSplitSign_text (literal : Literal) :
    Decimal.splitSign literal.text =
      (decide (literal.sign = some '-'), literal.whole ++ fractionText literal.fraction) := by
  obtain ⟨sign, whole, fraction, sign_mem, whole_ne_nil, all_whole, all_fraction⟩ := literal
  cases sign with
  | some character => rcases sign_mem character rfl with rfl | rfl <;> rfl
  | none =>
      obtain ⟨digit, others, rfl⟩ := List.exists_cons_of_ne_nil whole_ne_nil
      have isDigit_digit := List.all_eq_true.mp all_whole digit List.mem_cons_self
      exact decimalSplitSign_of_digit isDigit_digit _

theorem read_text (literal : Literal) : Decimal.read literal.text = some literal.decimal := by
  have ends : NumberEnds [] := by simp [NumberEnds]
  have stops := headFails_fractionText literal.fraction ends
  rw [List.append_nil] at stops
  have nonempty : literal.whole.isEmpty = false := by simp [literal.whole_ne_nil]
  simp only [Decimal.read, decimalSplitSign_text, literal.takeWhile_whole_append,
    literal.dropWhile_whole_append, takeWhile_of_headFails stops, dropWhile_of_headFails stops,
    List.append_nil, nonempty, Literal.decimal, Decimal.ofDigits, digitsValueHalved_eq]
  cases fraction : literal.fraction with
  | none => simp [fractionText]
  | some decimals =>
      have members := List.all_eq_true.mp (literal.all_fraction decimals fraction)
      have taken : decimals.takeWhile isDigit = decimals :=
        List.takeWhile_eq_self_iff.mpr members
      have dropped : decimals.dropWhile isDigit = [] :=
        List.dropWhile_eq_nil_iff.mpr members
      simp [fractionText, taken, dropped]

/-- The number of a literal's text is the number nearest to the decimal that it spells. -/
theorem numberOfText_text (literal : Literal) :
    numberOfText (.text (String.ofList literal.text)) = .number literal.number := by
  simp [numberOfText, read_text, Literal.number]

end Call
end Descent
