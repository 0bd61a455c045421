import Descent.Number.Decimal
import Descent.Value

/-!
# Reading JSON text

A reader of JSON as RFC 8259 has it, with no extension.  The text is cut into tokens, between which
blanks may stand, and a machine with a stack of open containers puts the tokens together.  A number
is kept as its exact decimal until the end, where it is read in a way of choice.  An escape that
stands for half of a surrogate pair is refused, for it denotes no character.
-/

namespace Descent
namespace Json

/-! ## Tokens -/

/-- The characters that may stand between tokens. -/
def isBlank (character : Char) : Bool :=
  character == ' ' || character == '\t' || character == '\n' || character == '\r'

/-- A mark of JSON text. -/
inductive Mark where
  | openArray
  | closeArray
  | openObject
  | closeObject
  | colon
  | comma

/-- A token of JSON text. -/
inductive Token where
  | mark (mark : Mark)
  | null
  | truth (value : Bool)
  | text (value : String)
  | number (value : Decimal)

/-- The value of a digit of base sixteen, in upper or lower case. -/
def hexValue? (digit : Char) : Option Nat :=
  if '0' ≤ digit ∧ digit ≤ '9' then some (digit.toNat - 48)
  else if 'a' ≤ digit ∧ digit ≤ 'f' then some (digit.toNat - 87)
  else if 'A' ≤ digit ∧ digit ≤ 'F' then some (digit.toNat - 55)
  else none

/-- The number of four digits of base sixteen at the front of a text, and the text behind them. -/
def unit? : List Char → Option (Nat × List Char)
  | first :: second :: third :: fourth :: rest => do
      let first ← hexValue? first
      let second ← hexValue? second
      let third ← hexValue? third
      let fourth ← hexValue? fourth
      some (((first * 16 + second) * 16 + third) * 16 + fourth, rest)
  | _ => none

/-- The character of an escape by number, behind `\u`; one beyond `2 ^ 16` takes two escapes. -/
def numbered? (text : List Char) : Option (Char × List Char) :=
  match unit? text with
  | none => none
  | some (unit, rest) =>
      if unit < 55296 ∨ 57344 ≤ unit then some (Char.ofNat unit, rest)
      else
        match rest with
        | '\\' :: 'u' :: further =>
            match unit? further with
            | none => none
            | some (low, rest) =>
                if unit < 56320 ∧ 56320 ≤ low ∧ low < 57344 then
                  some (Char.ofNat (65536 + (unit - 55296) * 1024 + (low - 56320)), rest)
                else none
        | _ => none

/-- The character of an escape by name. -/
def named? (mark : Char) : Option Char :=
  if mark = '"' ∨ mark = '\\' ∨ mark = '/' then some mark
  else if mark = 'b' then some '\x08'
  else if mark = 'f' then some '\x0c'
  else if mark = 'n' then some '\n'
  else if mark = 'r' then some '\r'
  else if mark = 't' then some '\t'
  else none

/-- The first character of the inside of a string, and the text behind it. -/
def character? : List Char → Option (Char × List Char)
  | [] => none
  | '\\' :: 'u' :: rest => numbered? rest
  | '\\' :: mark :: rest => (named? mark).map (·, rest)
  | character :: rest =>
      if character = '"' ∨ character = '\\' ∨ character.toNat < 32 then none
      else some (character, rest)

theorem length_of_unit? {text rest : List Char} {unit : Nat}
    (taken : unit? text = some (unit, rest)) : rest.length < text.length := by
  unfold unit? at taken
  split at taken
  · simp only [Option.bind_eq_bind, Option.bind_eq_some_iff, Option.some.injEq, Prod.mk.injEq]
      at taken
    obtain ⟨-, -, -, -, -, -, -, -, -, rfl⟩ := taken
    simp only [List.length_cons]
    omega
  · contradiction

theorem length_of_numbered? {text rest : List Char} {character : Char}
    (taken : numbered? text = some (character, rest)) : rest.length < text.length := by
  unfold numbered? at taken
  split at taken
  · contradiction
  · rename_i unit behind first
    have shorter := length_of_unit? first
    split at taken
    · obtain ⟨-, rfl⟩ := Prod.mk.inj (Option.some.inj taken)
      exact shorter
    · split at taken
      · rename_i further
        split at taken
        · contradiction
        · rename_i low last second
          have shortest := length_of_unit? second
          split at taken
          · obtain ⟨-, rfl⟩ := Prod.mk.inj (Option.some.inj taken)
            simp only [List.length_cons] at shorter
            omega
          · contradiction
      · contradiction

theorem length_of_character? {text rest : List Char} {character : Char}
    (taken : character? text = some (character, rest)) : rest.length < text.length := by
  unfold character? at taken
  split at taken
  · contradiction
  · have shorter := length_of_numbered? taken
    simp only [List.length_cons]
    omega
  · obtain ⟨-, -, ⟨⟩⟩ := Option.map_eq_some_iff.mp taken
    simp only [List.length_cons]
    omega
  · split at taken
    · contradiction
    · obtain ⟨-, rfl⟩ := Prod.mk.inj (Option.some.inj taken)
      exact Nat.lt_succ_self _

/-- The inside of a string behind some characters of it, and the text behind its closing mark. -/
def string? (text : List Char) : Option (List Char × List Char) :=
  if text.head? = some '"' then some ([], text.tail)
  else
    match taken : character? text with
    | none => none
    | some (character, rest) =>
        have := length_of_character? taken
        (string? rest).map fun (characters, behind) => (character :: characters, behind)
termination_by text.length
decreasing_by assumption

theorem string?_closed (rest : List Char) : string? ('"' :: rest) = some ([], rest) := by
  rw [string?, if_pos List.head?_cons, List.tail_cons]

theorem string?_of_none {text : List Char} (opened : text.head? ≠ some '"')
    (missing : character? text = none) : string? text = none := by
  rw [string?, if_neg opened]
  split
  · rfl
  · simp_all

theorem string?_of_some {text rest : List Char} {character : Char}
    (opened : text.head? ≠ some '"') (taken : character? text = some (character, rest)) :
    string? text =
      (string? rest).map fun (characters, behind) => (character :: characters, behind) := by
  rw [string?, if_neg opened]
  split
  · simp_all
  · rename_i found
    obtain ⟨rfl, rfl⟩ := Prod.mk.inj (Option.some.inj (taken.symm.trans found))
    rfl

/-! ## Numbers -/

/-- The characters of which numbers are made. -/
def isNumberCharacter (character : Char) : Bool :=
  isDigit character || character == '-' || character == '+' || character == '.' ||
    character == 'e' || character == 'E'

/-- The digits of a fraction, at least one if there is a point, and the text behind them. -/
def fraction? : List Char → Option (List Char × List Char)
  | '.' :: rest =>
      if (rest.takeWhile isDigit).isEmpty then none
      else some (rest.takeWhile isDigit, rest.dropWhile isDigit)
  | rest => some ([], rest)

/-- The exponent at the end of a number; without one it is zero. -/
def exponent? : List Char → Option Int
  | [] => some 0
  | mark :: rest => if mark = 'e' ∨ mark = 'E' then Decimal.readExponent rest else none

/-- The number of a text without a sign: no zero stands in front of other digits. -/
def unsigned? (negative : Bool) (text : List Char) : Option Decimal :=
  let whole := text.takeWhile isDigit
  if whole = [] ∨ (whole.head? = some '0' ∧ whole ≠ ['0']) then none
  else
    match fraction? (text.dropWhile isDigit) with
    | none => none
    | some (fraction, rest) =>
        (exponent? rest).map fun exponent =>
          ⟨negative, digitsValue (whole ++ fraction), exponent - fraction.length⟩

/-- The number of a text; a plus sign is not allowed. -/
def number? : List Char → Option Decimal
  | '-' :: rest => unsigned? true rest
  | text => unsigned? false text

/-! ## Texts as tokens -/

/-- The mark that a character is. -/
def mark? (character : Char) : Option Mark :=
  if character = '[' then some .openArray
  else if character = ']' then some .closeArray
  else if character = '\x7b' then some .openObject
  else if character = '\x7d' then some .closeObject
  else if character = ':' then some .colon
  else if character = ',' then some .comma
  else none

/-- A word at the front of a text, and the text behind it. -/
def word? : List Char → Option (Token × List Char)
  | 'n' :: 'u' :: 'l' :: 'l' :: rest => some (.null, rest)
  | 't' :: 'r' :: 'u' :: 'e' :: rest => some (.truth true, rest)
  | 'f' :: 'a' :: 'l' :: 's' :: 'e' :: rest => some (.truth false, rest)
  | _ => none

/-- The token at the front of a text, and the text behind it. -/
def token? : List Char → Option (Token × List Char)
  | [] => none
  | first :: rest =>
      match mark? first with
      | some mark => some (.mark mark, rest)
      | none =>
          if first = '"' then
            (string? rest).map fun (characters, behind) =>
              (.text (String.ofList characters), behind)
          else if isNumberCharacter first then
            (number? (first :: rest.takeWhile isNumberCharacter)).map fun value =>
              (.number value, rest.dropWhile isNumberCharacter)
          else word? (first :: rest)

theorem length_of_string? {text characters rest : List Char}
    (taken : string? text = some (characters, rest)) : rest.length < text.length := by
  induction text using string?.induct generalizing characters with
  | case1 text closed =>
      rw [string?, if_pos closed] at taken
      obtain ⟨-, rfl⟩ := Prod.mk.inj (Option.some.inj taken)
      cases text with
      | nil => contradiction
      | cons first text => exact Nat.lt_succ_self _
  | case2 text opened missing =>
      rw [string?_of_none opened missing] at taken
      contradiction
  | case3 text opened character behind found shorter induction =>
      rw [string?_of_some opened found] at taken
      obtain ⟨⟨others, last⟩, further, pair_eq⟩ := Option.map_eq_some_iff.mp taken
      obtain ⟨-, rfl⟩ := Prod.mk.inj pair_eq
      exact Nat.lt_trans (induction further) shorter

theorem length_of_token? {text rest : List Char} {token : Token}
    (taken : token? text = some (token, rest)) : rest.length < text.length := by
  cases text with
  | nil => contradiction
  | cons first text =>
      rw [token?] at taken
      split at taken
      · obtain ⟨-, rfl⟩ := Prod.mk.inj (Option.some.inj taken)
        exact Nat.lt_succ_self _
      · split at taken
        · obtain ⟨⟨characters, behind⟩, inside, pair_eq⟩ := Option.map_eq_some_iff.mp taken
          obtain ⟨-, rfl⟩ := Prod.mk.inj pair_eq
          exact Nat.lt_succ_of_lt (length_of_string? inside)
        · split at taken
          · obtain ⟨value, -, pair_eq⟩ := Option.map_eq_some_iff.mp taken
            obtain ⟨-, rfl⟩ := Prod.mk.inj pair_eq
            exact Nat.lt_succ_of_le (List.dropWhile_sublist _).length_le
          · unfold word? at taken
            split at taken
            · simp_all; omega
            · simp_all; omega
            · simp_all; omega
            · contradiction

/-- The tokens of a text. -/
def tokens : List Char → Option (List Token)
  | [] => some []
  | first :: rest =>
      if isBlank first then tokens rest
      else
        match taken : token? (first :: rest) with
        | none => none
        | some (token, behind) =>
            have := length_of_token? taken
            (tokens behind).map (token :: ·)
termination_by text => text.length
decreasing_by
  · exact Nat.lt_succ_self _
  · assumption

theorem tokens_of_isBlank {first : Char} (blank : isBlank first = true) (rest : List Char) :
    tokens (first :: rest) = tokens rest := by
  rw [tokens, if_pos blank]

/-- No token begins with a blank. -/
theorem token?_of_isBlank {first : Char} (blank : isBlank first = true) (rest : List Char) :
    token? (first :: rest) = none := by
  simp only [isBlank, Bool.or_eq_true, beq_iff_eq] at blank
  rcases blank with ((rfl | rfl) | rfl) | rfl <;> rfl

theorem tokens_of_token? {text rest : List Char} {token : Token}
    (taken : token? text = some (token, rest)) :
    tokens text = (tokens rest).map (token :: ·) := by
  cases text with
  | nil => contradiction
  | cons first others =>
      have noBlank : ¬ isBlank first = true := by
        intro blank
        rw [token?_of_isBlank blank] at taken
        contradiction
      rw [tokens, if_neg noBlank]
      split
      · simp_all
      · rename_i found
        obtain ⟨rfl, rfl⟩ := Prod.mk.inj (Option.some.inj (taken.symm.trans found))
        rfl

/-! ## Tokens as values -/

/-- A container that is still open. -/
inductive Frame where
  /-- An array with its items so far, the latest first. -/
  | array (items : List Value)
  /-- An object with its fields so far, the latest first, and the name of the next one. -/
  | object (names : List String) (values : List Value) (name : String)

/-- What was read last, inside some open containers, the innermost first. -/
inductive Stage where
  /-- A value must follow. -/
  | value (outer : List Frame)
  /-- An array was opened: an item or the end must follow. -/
  | firstItem (outer : List Frame)
  /-- An object was opened: a name or the end must follow. -/
  | firstName (outer : List Frame)
  /-- A comma behind fields: a name must follow. -/
  | name (names : List String) (values : List Value) (outer : List Frame)
  /-- A name behind fields: a colon must follow. -/
  | colon (names : List String) (values : List Value) (name : String) (outer : List Frame)
  /-- A value: a comma or the end of its container must follow. -/
  | complete (value : Value) (outer : List Frame)

namespace Stage

/-- The first token of a value. -/
def begin? (number : Decimal → Value) (outer : List Frame) : Token → Option Stage
  | .mark .openArray => some (firstItem outer)
  | .mark .openObject => some (firstName outer)
  | .null => some (complete .null outer)
  | .truth truth => some (complete (.truth truth) outer)
  | .text text => some (complete (.text text) outer)
  | .number decimal => some (complete (number decimal) outer)
  | _ => none

/-- The next token. -/
def step? (number : Decimal → Value) : Stage → Token → Option Stage
  | value outer, token => begin? number outer token
  | firstItem outer, .mark .closeArray => some (complete (.list []) outer)
  | firstItem outer, token => begin? number (.array [] :: outer) token
  | firstName outer, .mark .closeObject => some (complete (.record [] []) outer)
  | firstName outer, .text next => some (colon [] [] next outer)
  | name names values outer, .text next => some (colon names values next outer)
  | colon names values next outer, .mark .colon =>
      some (value (.object names values next :: outer))
  | complete item (.array items :: outer), .mark .comma =>
      some (value (.array (item :: items) :: outer))
  | complete item (.array items :: outer), .mark .closeArray =>
      some (complete (.list (item :: items).reverse) outer)
  | complete item (.object names values next :: outer), .mark .comma =>
      some (name (next :: names) (item :: values) outer)
  | complete item (.object names values next :: outer), .mark .closeObject =>
      some (complete (.record (next :: names).reverse (item :: values).reverse) outer)
  | _, _ => none

/-- The value at the end of the text. -/
def result? : Stage → Option Value
  | complete item [] => some item
  | _ => none

end Stage

/-- The value of JSON text, with its numbers read in a given way; other text has none. -/
def decode (number : Decimal → Value) (text : List Char) : Option Value := do
  let tokens ← tokens text
  let stage ← tokens.foldlM (Stage.step? number) (.value [])
  stage.result?

end Json
end Descent
