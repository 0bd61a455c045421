import Descent.Value

/-!
# Values as JSON text

A style says whether characters beyond the printable ASCII range are escaped and whether the text is
spread over lines with an indentation.  A call is written as the object of its target and its
arguments.
-/

namespace Descent

/-- How JSON text is written. -/
structure JsonStyle where
  /-- Escape every character that is not printable ASCII. -/
  asciiOnly : Bool
  /-- Blanks for each level, every item on a line of its own; without it all is one line. -/
  indent : Option Nat
  deriving DecidableEq, Repr

namespace Json

/-- The escape of a code point below `2 ^ 16`. -/
def unitEscape (code : Nat) : List Char := '\\' :: 'u' :: hexDigits 4 code

/-- The escape of any code point; one above that range takes two units. -/
def codeEscape (code : Nat) : List Char :=
  if code < 65536 then unitEscape code
  else
    unitEscape (55296 + (code - 65536) / 1024) ++ unitEscape (56320 + (code - 65536) % 1024)

/-- A character inside a JSON string. -/
def escape (asciiOnly : Bool) (character : Char) : List Char :=
  if character = '"' then ['\\', '"']
  else if character = '\\' then ['\\', '\\']
  else if character = '\n' then ['\\', 'n']
  else if character = '\r' then ['\\', 'r']
  else if character = '\t' then ['\\', 't']
  else if character = '\x08' then ['\\', 'b']
  else if character = '\x0c' then ['\\', 'f']
  else if character.toNat < 32 then unitEscape character.toNat
  else if asciiOnly && decide (126 < character.toNat) then codeEscape character.toNat
  else [character]

/-- A JSON string. -/
def string (asciiOnly : Bool) (characters : List Char) : List Char :=
  '"' :: (characters.flatMap (escape asciiOnly) ++ ['"'])

/-- A line break with the indentation of a level, or nothing on one line. -/
def lineBreak (style : JsonStyle) (level : Nat) : List Char :=
  match style.indent with
  | none => []
  | some blanks => '\n' :: List.replicate (blanks * level) ' '

/-- What stands between two items of a level. -/
def separator (style : JsonStyle) (level : Nat) : List Char :=
  match style.indent with
  | none => [',', ' ']
  | some _ => ',' :: lineBreak style level

/-- Items between two brackets, the items one level further in. -/
def enclose (style : JsonStyle) (level : Nat) (opening closing : Char)
    (items : List (List Char)) : List Char :=
  match items with
  | [] => [opening, closing]
  | item :: others =>
      opening ::
        (lineBreak style (level + 1) ++
          (separator style (level + 1)).intercalate (item :: others) ++
          lineBreak style level ++ [closing])

/-- A field of an object. -/
def field (style : JsonStyle) (name : String) (value : List Char) : List Char :=
  string style.asciiOnly name.toList ++ ':' :: ' ' :: value

mutual

/-- The text of a value that starts at a level. -/
def write (style : JsonStyle) (level : Nat) : Value → List Char
  | .null => ['n', 'u', 'l', 'l']
  | .truth value => if value then ['t', 'r', 'u', 'e'] else ['f', 'a', 'l', 's', 'e']
  | .integer value => integerText value
  | .number value => value.plainText
  | .text value => string style.asciiOnly value.toList
  | .tuple items => enclose style level '[' ']' (writeItems style (level + 1) [] items)
  | .list items => enclose style level '[' ']' (writeItems style (level + 1) [] items)
  | .record names values =>
      enclose style level '\x7b' '\x7d'
        (List.zipWith (field style) names (writeItems style (level + 1) [] values))
  | .call target arguments =>
      enclose style level '\x7b' '\x7d'
        [field style "target" (string style.asciiOnly target.toList),
          field style "args"
            (enclose style (level + 1) '[' ']' (writeItems style (level + 2) [] arguments))]

/-- The texts of items after some texts, the latest first. -/
def writeItems (style : JsonStyle) (level : Nat) (done : List (List Char)) :
    List Value → List (List Char)
  | [] => done.reverse
  | item :: items => writeItems style level (write style level item :: done) items

end

theorem writeItems_eq (style : JsonStyle) (level : Nat) (done : List (List Char))
    (items : List Value) :
    writeItems style level done items = done.reverse ++ items.map (write style level) := by
  induction items generalizing done with
  | nil => simp [writeItems]
  | cons item items induction => simp [writeItems, induction]

/-- The text of a value. -/
def text (style : JsonStyle) (value : Value) : String := String.ofList (write style 0 value)

mutual

/-- The first number of a value that is infinite or undefined, in the order of writing. -/
def firstUnwritable? : Value → Option Binary64
  | .number value => if value.isFinite then none else some value
  | .tuple items => firstUnwritableOf? items
  | .list items => firstUnwritableOf? items
  | .record _ values => firstUnwritableOf? values
  | .call _ arguments => firstUnwritableOf? arguments
  | _ => none

/-- The first such number in some values. -/
def firstUnwritableOf? : List Value → Option Binary64
  | [] => none
  | item :: items =>
      match firstUnwritable? item with
      | some number => some number
      | none => firstUnwritableOf? items

end

end Json

end Descent
