import Descent.Json.Text
import Descent.Proofs.Json.Numeral

/-!
# Words of JSON text

What JSON text is made of, apart from the blanks between: marks, strings, numbers and three names.
A word is read as its token whatever follows, but for a number, which must not go on.
-/

namespace Descent
namespace Json

/-! ## Escapes -/

/-- A character that JSON text may show: no control character, and perhaps of the ASCII range. -/
def IsShown (asciiOnly : Bool) (character : Char) : Prop :=
  32 ≤ character.toNat ∧ (asciiOnly = true → character.toNat ≤ 126)

instance (asciiOnly : Bool) (character : Char) : Decidable (IsShown asciiOnly character) :=
  inferInstanceAs (Decidable (_ ∧ (_ → _)))

/-- A digit of base sixteen is read back. -/
theorem hexValue?_hexDigit {value : Nat} (small : value < 16) :
    hexValue? (hexDigit value) = some value := by
  revert value
  decide

theorem unit?_hexDigits {code : Nat} (small : code < 65536) (rest : List Char) :
    unit? (hexDigits 4 code ++ rest) = some (code, rest) := by
  have digit (value : Nat) : hexValue? (hexDigit (value % 16)) = some (value % 16) :=
    hexValue?_hexDigit (Nat.mod_lt _ (by decide))
  have sum : ((code / 16 / 16 / 16 % 16 * 16 + code / 16 / 16 % 16) * 16 + code / 16 % 16) * 16 +
      code % 16 = code := by omega
  simp [hexDigits, unit?, digit, sum]

/-- A code point beyond one unit is joined from its two halves. -/
theorem character?_codeEscape (character : Char) (rest : List Char) :
    character? (codeEscape character.toNat ++ rest) = some (character, rest) := by
  have valid : character.toNat < 55296 ∨ 57343 < character.toNat ∧ character.toNat < 1114112 :=
    character.valid
  rw [codeEscape]
  split
  · rename_i small
    rw [unitEscape, List.cons_append, List.cons_append, character?, numbered?,
      unit?_hexDigits small]
    simp only
    rw [if_pos (by omega), Char.ofNat_toNat]
  · rename_i large
    -- Each half is a unit below `2 ^ 16`; that the halves make the code point is arithmetic.
    generalize high_eq : 55296 + (character.toNat - 65536) / 1024 = high
    generalize low_eq : 56320 + (character.toNat - 65536) % 1024 = low
    have joined : 65536 + (high - 55296) * 1024 + (low - 56320) = character.toNat := by omega
    rw [unitEscape, unitEscape, List.cons_append, List.cons_append, List.cons_append,
      List.cons_append, List.append_assoc, character?, numbered?, unit?_hexDigits (by omega)]
    simp only
    rw [if_neg (by omega), List.cons_append, List.cons_append]
    simp only
    rw [unit?_hexDigits (by omega)]
    simp only
    rw [if_pos (by omega), joined, Char.ofNat_toNat]

/-- The ways in which a character stands in a string. -/
inductive Escape (asciiOnly : Bool) (character : Char) : List Char → Prop where
  /-- By a name, which is no mark of a code point. -/
  | named (mark : Char) (names : named? mark = some character) (noCode : mark ≠ 'u')
      (shown : ∀ asciiOnly, IsShown asciiOnly mark) : Escape asciiOnly character ['\\', mark]
  /-- By its code point. -/
  | numbered : Escape asciiOnly character (codeEscape character.toNat)
  /-- As itself. -/
  | plain (open_mark : character ≠ '"') (no_escape : character ≠ '\\')
      (shown : 32 ≤ character.toNat) (ascii : asciiOnly = true → character.toNat ≤ 126) :
      Escape asciiOnly character [character]

theorem escape_cases (asciiOnly : Bool) (character : Char) :
    Escape asciiOnly character (escape asciiOnly character) := by
  rw [escape]
  split
  · rename_i same
    exact .named '"' (by rw [same]; rfl) (by decide) (by decide)
  · rename_i open_mark
    split
    · rename_i same
      exact .named '\\' (by rw [same]; rfl) (by decide) (by decide)
    · rename_i no_escape
      repeat' split
      · rename_i same
        exact .named 'n' (by rw [same]; rfl) (by decide) (by decide)
      · rename_i same
        exact .named 'r' (by rw [same]; rfl) (by decide) (by decide)
      · rename_i same
        exact .named 't' (by rw [same]; rfl) (by decide) (by decide)
      · rename_i same
        exact .named 'b' (by rw [same]; rfl) (by decide) (by decide)
      · rename_i same
        exact .named 'f' (by rw [same]; rfl) (by decide) (by decide)
      · have code : codeEscape character.toNat = unitEscape character.toNat := if_pos (by omega)
        rw [← code]
        exact .numbered
      · exact .numbered
      · rename_i control wide
        refine .plain open_mark no_escape (Nat.le_of_not_lt control) fun ascii => ?_
        simpa [ascii] using wide

/-- A character is read back from the way in which it stands in a string. -/
theorem character?_escape (asciiOnly : Bool) (character : Char) (rest : List Char) :
    character? (escape asciiOnly character ++ rest) = some (character, rest) := by
  have shape := escape_cases asciiOnly character
  generalize escape asciiOnly character = written at shape ⊢
  cases shape with
  | named mark names noCode shown =>
      rw [List.cons_append, List.cons_append, List.nil_append, character?, names]
      · rfl
      · exact fun same => noCode same
  | numbered => exact character?_codeEscape character rest
  | plain open_mark no_escape shown ascii =>
      rw [List.cons_append, List.nil_append, character?, if_neg]
      · simp [open_mark, no_escape, shown]
      · exact fun _ same => absurd same no_escape
      · exact fun _ _ same => absurd same no_escape

/-- The inside of a string does not begin with its closing mark. -/
theorem head?_escape_ne (asciiOnly : Bool) (character : Char) (rest : List Char) :
    (escape asciiOnly character ++ rest).head? ≠ some '"' := by
  have shape := escape_cases asciiOnly character
  generalize escape asciiOnly character = written at shape ⊢
  cases shape with
  | named mark names noCode shown =>
      rw [List.cons_append, List.head?_cons]
      decide
  | numbered =>
      rw [codeEscape]
      split <;> simp [unitEscape]
  | plain open_mark no_escape shown ascii => exact fun same => open_mark (Option.some.inj same)

/-- A string is read back. -/
theorem string?_flatMap_escape (asciiOnly : Bool) (characters rest : List Char) :
    string? (characters.flatMap (escape asciiOnly) ++ '"' :: rest) = some (characters, rest) := by
  induction characters with
  | nil => rw [List.flatMap_nil, List.nil_append, string?_closed]
  | cons character characters induction =>
      rw [List.flatMap_cons, List.append_assoc,
        string?_of_some (head?_escape_ne asciiOnly character _)
          (character?_escape asciiOnly character _), induction]
      rfl

/-! ## Shown characters -/

/-- The digits of base sixteen are shown, and no marks of strings. -/
theorem hexDigits_mem {width number : Nat} {character : Char}
    (mem : character ∈ hexDigits width number) :
    character ≠ '"' ∧ character ≠ '\\' ∧ ∀ asciiOnly, IsShown asciiOnly character := by
  have digit : ∀ value < 16, hexDigit value ≠ '"' ∧ hexDigit value ≠ '\\' ∧
      ∀ asciiOnly, IsShown asciiOnly (hexDigit value) := by decide
  induction width generalizing number with
  | zero => exact absurd mem List.not_mem_nil
  | succ width induction =>
      rw [hexDigits, List.mem_append, List.mem_singleton] at mem
      rcases mem with upper | rfl
      · exact induction upper
      · exact digit _ (Nat.mod_lt _ (by decide))

theorem isShown_of_mem_unitEscape {code : Nat} {character : Char}
    (mem : character ∈ unitEscape code) (asciiOnly : Bool) : IsShown asciiOnly character := by
  rw [unitEscape, List.mem_cons, List.mem_cons] at mem
  rcases mem with rfl | rfl | digit
  · cases asciiOnly <;> decide
  · cases asciiOnly <;> decide
  · exact (hexDigits_mem digit).2.2 asciiOnly

theorem isShown_of_mem_escape {asciiOnly : Bool} {character shown : Char}
    (mem : shown ∈ escape asciiOnly character) : IsShown asciiOnly shown := by
  have shape := escape_cases asciiOnly character
  generalize escape asciiOnly character = written at shape mem
  cases shape with
  | named mark names noCode visible =>
      rcases List.mem_cons.mp mem with rfl | mem
      · cases asciiOnly <;> decide
      · rw [List.mem_singleton.mp mem]
        exact visible asciiOnly
  | numbered =>
      rw [codeEscape] at mem
      split at mem
      · exact isShown_of_mem_unitEscape mem asciiOnly
      · rcases List.mem_append.mp mem with mem | mem
        · exact isShown_of_mem_unitEscape mem asciiOnly
        · exact isShown_of_mem_unitEscape mem asciiOnly
  | plain open_mark no_escape visible ascii =>
      rw [List.mem_singleton.mp mem]
      exact ⟨visible, ascii⟩

theorem isShown_of_mem_string {asciiOnly : Bool} {characters : List Char} {shown : Char}
    (mem : shown ∈ string asciiOnly characters) : IsShown asciiOnly shown := by
  rw [string, List.mem_cons, List.mem_append, List.mem_flatMap, List.mem_singleton] at mem
  rcases mem with rfl | ⟨character, -, mem⟩ | rfl
  · cases asciiOnly <;> decide
  · exact isShown_of_mem_escape mem
  · cases asciiOnly <;> decide

/-- The characters of numbers and of names. -/
def isBare (character : Char) : Bool := isNumberCharacter character || isLetter character

theorem toNat_of_isBare {character : Char} (bare : isBare character = true) :
    character.toNat < 128 := by
  simp only [isBare, isNumberCharacter, isDigit, isLetter, Bool.or_eq_true, Bool.and_eq_true,
    decide_eq_true_eq, beq_iff_eq, Char.le_def, UInt32.le_iff_toNat_le] at bare
  have codes : ('9' : Char).val.toNat = 57 ∧ ('z' : Char).val.toNat = 122 ∧
      ('Z' : Char).val.toNat = 90 := by decide
  have val_eq : character.val.toNat = character.toNat := rfl
  rcases bare with (((((⟨-, le⟩ | rfl) | rfl) | rfl) | rfl) | rfl) | ⟨-, le⟩ | ⟨-, le⟩
  all_goals first | omega | decide

/-- A character of a number or a name is shown, and is no blank and no mark. -/
theorem isBare_only {character : Char} (bare : isBare character = true) :
    (∀ asciiOnly, IsShown asciiOnly character) ∧ isBlank character = false ∧
      mark? character = none ∧ character ≠ '"' := by
  have ascii : ∀ code < 128, isBare (Char.ofNat code) = true →
      (∀ asciiOnly, IsShown asciiOnly (Char.ofNat code)) ∧ isBlank (Char.ofNat code) = false ∧
        (mark? (Char.ofNat code)).isNone ∧ Char.ofNat code ≠ '"' := by decide
  have facts := ascii character.toNat (toNat_of_isBare bare)
  rw [Char.ofNat_toNat] at facts
  obtain ⟨shown, blank, mark, quote⟩ := facts bare
  exact ⟨shown, blank, Option.isNone_iff_eq_none.mp mark, quote⟩

theorem isBare_of_isNumberCharacter {character : Char}
    (number : isNumberCharacter character = true) : isBare character = true := by
  rw [isBare, number, Bool.true_or]

/-! ## Words -/

/-- The character of a mark. -/
def Mark.character : Mark → Char
  | .openArray => '['
  | .closeArray => ']'
  | .openObject => '\x7b'
  | .closeObject => '\x7d'
  | .colon => ':'
  | .comma => ','

/-- What JSON text is made of, apart from blanks. -/
inductive Word where
  | mark (mark : Mark)
  | null
  | truth (value : Bool)
  | text (value : String)
  | integer (value : Int)
  | number (value : Binary64)

namespace Word

/-- The characters of a word. -/
def spelling (asciiOnly : Bool) : Word → List Char
  | mark sign => [sign.character]
  | null => ['n', 'u', 'l', 'l']
  | truth value => if value then ['t', 'r', 'u', 'e'] else ['f', 'a', 'l', 's', 'e']
  | text value => string asciiOnly value.toList
  | integer value => integerText value
  | number value => value.plainText

/-- The decimal of a number's text. -/
def decimalOf (text : List Char) : Decimal := (number? text).getD ⟨false, 0, 0⟩

/-- The token of a word. -/
def token : Word → Token
  | mark sign => .mark sign
  | null => .null
  | truth value => .truth value
  | text value => .text value
  | integer value => .number (decimalOf (integerText value))
  | number value => .number (decimalOf value.plainText)

/-- The number of a word, if it is infinite or undefined. -/
def unwritable? : Word → Option Binary64
  | number value => if value.isFinite then none else some value
  | _ => none

/-- The word is a number, which goes on with further characters of numbers. -/
def isNumeric : Word → Bool
  | integer _ => true
  | number _ => true
  | _ => false

variable {word : Word}

theorem exists_numeral (numeric : word.isNumeric = true) (writable : word.unwritable? = none) :
    ∃ numeral : Numeral, (∀ asciiOnly, numeral.text = word.spelling asciiOnly) ∧
      word.token = .number numeral.decimal := by
  cases word with
  | mark | null | truth | text => contradiction
  | integer value =>
      obtain ⟨numeral, text_eq, -⟩ := Numeral.exists_text_eq_integerText value
      refine ⟨numeral, fun _ => text_eq, ?_⟩
      rw [token, decimalOf, ← text_eq, numeral.number?_text, Option.getD_some]
  | number value =>
      have isFinite : value.isFinite = true := by
        rw [unwritable?] at writable
        by_contra infinite
        rw [if_neg infinite] at writable
        contradiction
      obtain ⟨numeral, text_eq, -⟩ := Numeral.exists_text_eq_plainText isFinite
      refine ⟨numeral, fun _ => text_eq, ?_⟩
      rw [token, decimalOf, ← text_eq, numeral.number?_text, Option.getD_some]

/-- A number is read up to the first character that is none of a number. -/
theorem token?_numeral (numeral : Numeral) {rest : List Char}
    (ends : Call.HeadFails isNumberCharacter rest) :
    token? (numeral.text ++ rest) = some (.number numeral.decimal, rest) := by
  have read := numeral.number?_text
  have all := numeral.all_text
  cases text_eq : numeral.text with
  | nil =>
      rw [text_eq] at read
      contradiction
  | cons first others =>
      rw [text_eq] at read all
      rw [List.all_cons, Bool.and_eq_true, List.all_eq_true] at all
      obtain ⟨-, -, noMark, noQuote⟩ := isBare_only (isBare_of_isNumberCharacter all.1)
      rw [List.cons_append, token?, noMark]
      simp only
      rw [if_neg noQuote, if_pos all.1, List.takeWhile_append_of_pos all.2,
        List.dropWhile_append_of_pos all.2, Call.takeWhile_of_headFails ends,
        Call.dropWhile_of_headFails ends, List.append_nil, read]
      rfl

/-- A word is read as its token whatever follows; behind a number no number may go on. -/
theorem token?_spelling (asciiOnly : Bool) (writable : word.unwritable? = none) {rest : List Char}
    (ends : word.isNumeric = true → Call.HeadFails isNumberCharacter rest) :
    token? (word.spelling asciiOnly ++ rest) = some (word.token, rest) := by
  by_cases numeric : word.isNumeric = true
  · obtain ⟨numeral, text_eq, token_eq⟩ := exists_numeral numeric writable
    rw [← text_eq, token_eq, token?_numeral numeral (ends numeric)]
  · cases word with
    | integer | number => contradiction
    | mark sign => cases sign <;> rfl
    | null => rfl
    | truth value => cases value <;> rfl
    | text value =>
        have inside := string?_flatMap_escape asciiOnly value.toList rest
        have quote : mark? '"' = none := rfl
        rw [spelling, string, List.cons_append, List.append_assoc, List.singleton_append, token?,
          quote]
        simp only
        rw [if_pos trivial, inside, Option.map_some, String.ofList_toList]
        rfl

/-- A word is a mark, a string, or a number or a name of bare characters. -/
theorem mark_or_text_or_bare (asciiOnly : Bool) (writable : word.unwritable? = none) :
    (∃ sign, word = .mark sign) ∨ (∃ value, word = .text value) ∨
      ∀ character ∈ word.spelling asciiOnly, isBare character = true := by
  by_cases numeric : word.isNumeric = true
  · obtain ⟨numeral, text_eq, -⟩ := exists_numeral numeric writable
    have all := numeral.all_text
    rw [List.all_eq_true] at all
    rw [← text_eq]
    exact .inr (.inr fun character mem => isBare_of_isNumberCharacter (all character mem))
  · cases word with
    | integer | number => contradiction
    | mark sign => exact .inl ⟨sign, rfl⟩
    | text value => exact .inr (.inl ⟨value, rfl⟩)
    | null => exact .inr (.inr (List.all_eq_true.mp rfl))
    | truth value => cases value <;> exact .inr (.inr (List.all_eq_true.mp rfl))

/-- The characters of a word are shown. -/
theorem isShown_of_mem_spelling {asciiOnly : Bool} (writable : word.unwritable? = none)
    {character : Char} (mem : character ∈ word.spelling asciiOnly) :
    IsShown asciiOnly character := by
  rcases mark_or_text_or_bare asciiOnly writable with ⟨sign, rfl⟩ | ⟨value, rfl⟩ | bare
  · rw [List.mem_singleton.mp mem]
    cases sign <;> cases asciiOnly <;> decide
  · exact isShown_of_mem_string mem
  · exact (isBare_only (bare character mem)).1 asciiOnly

end Word

end Json
end Descent
