import Descent.Text.Printable

/-!
# Quoted texts

A text in quotation marks.  The mark is an apostrophe, or a double mark when the text has an
apostrophe and no double mark.  The mark and the backslash are preceded by a backslash, and a
character that does not show as itself is written by name or by its code point in hexadecimal.
-/

namespace Descent

/-- A digit of base sixteen, in lower case. -/
def hexDigit (value : Nat) : Char :=
  if value < 10 then Char.ofNat (48 + value) else Char.ofNat (87 + value)

/-- The lowest `width` digits of a number in base sixteen. -/
def hexDigits : Nat → Nat → List Char
  | 0, _ => []
  | width + 1, number => hexDigits width (number / 16) ++ [hexDigit (number % 16)]

@[simp]
theorem length_hexDigits (width number : Nat) : (hexDigits width number).length = width := by
  induction width generalizing number with
  | zero => rfl
  | succ width induction => simp [hexDigits, induction]

/-- The quotation mark chosen for a text. -/
def quotationMark (characters : List Char) : Char :=
  if characters.contains '\'' && !characters.contains '"' then '"' else '\''

/-- A character as it stands between quotation marks. -/
def quotedCharacter (mark character : Char) : List Char :=
  if character = mark ∨ character = '\\' then ['\\', character]
  else if character = '\n' then ['\\', 'n']
  else if character = '\r' then ['\\', 'r']
  else if character = '\t' then ['\\', 't']
  else if isPrintable character then [character]
  else if character.toNat < 256 then '\\' :: 'x' :: hexDigits 2 character.toNat
  else if character.toNat < 65536 then '\\' :: 'u' :: hexDigits 4 character.toNat
  else '\\' :: 'U' :: hexDigits 8 character.toNat

/-- A text in quotation marks. -/
def quoted (characters : List Char) : List Char :=
  let mark := quotationMark characters
  mark :: (characters.flatMap (quotedCharacter mark) ++ [mark])

/-- A text in quotation marks. -/
def quotedText (text : String) : String := String.ofList (quoted text.toList)

end Descent
