/-!
# Source texts, lines and places

A source is the sequence of characters of a text, with their number kept beside it.  Offsets count
characters.  Lines end at a newline character, which belongs to the line it ends, and a place is the
line and the column of an offset, both counted from one.
-/

namespace Descent

/-- A text as its characters, with their number kept beside them. -/
structure Source where
  /-- Characters in reading order. -/
  chars : List Char
  /-- Number of characters. -/
  size : Nat
  size_eq : size = chars.length
  deriving DecidableEq

/-- A line and a column, both counted from one. -/
structure Place where
  line : Nat
  column : Nat
  deriving DecidableEq, Repr

namespace Place

/-- The place of the first character of a text. -/
def first : Place := ⟨1, 1⟩

/-- The place after one more character. -/
def step (place : Place) (character : Char) : Place :=
  if character = '\n' then ⟨place.line + 1, 1⟩ else ⟨place.line, place.column + 1⟩

/-- The place reached by reading characters from a given place. -/
def after (place : Place) (characters : List Char) : Place :=
  characters.foldl step place

@[simp]
theorem after_nil (place : Place) : place.after [] = place := rfl

@[simp]
theorem after_cons (place : Place) (character : Char) (characters : List Char) :
    place.after (character :: characters) = (place.step character).after characters := rfl

theorem after_append (place : Place) (left right : List Char) :
    place.after (left ++ right) = (place.after left).after right := by
  simp [after]

end Place

/-- The lines of one more character in front of given lines. -/
def prependToLines (character : Char) (lines : List (List Char)) : List (List Char) :=
  if character = '\n' then [] :: lines
  else
    match lines with
    | [] => [[character]]
    | line :: others => (character :: line) :: others

/-- The lines of a text: the pieces between its newline characters. -/
def linesOf (characters : List Char) : List (List Char) :=
  characters.foldr prependToLines [[]]

@[simp]
theorem linesOf_nil : linesOf [] = [[]] := rfl

theorem linesOf_cons (character : Char) (characters : List Char) :
    linesOf (character :: characters) = prependToLines character (linesOf characters) := rfl

theorem linesOf_ne_nil (characters : List Char) : linesOf characters ≠ [] := by
  cases characters with
  | nil => simp
  | cons character characters =>
      rw [linesOf_cons]
      unfold prependToLines
      split
      · simp
      · split <;> simp

namespace Source

/-- The source with given characters. -/
def ofList (characters : List Char) : Source :=
  ⟨characters, characters.length, rfl⟩

/-- The source of a text. -/
def ofString (text : String) : Source := ofList text.toList

/-- The text of a source. -/
def toString (source : Source) : String := String.ofList source.chars

@[ext]
theorem ext {left right : Source} (chars_eq : left.chars = right.chars) : left = right := by
  obtain ⟨leftChars, leftSize, leftEq⟩ := left
  obtain ⟨rightChars, rightSize, rightEq⟩ := right
  simp only at chars_eq
  subst chars_eq leftEq rightEq
  rfl

@[simp]
theorem chars_ofList (characters : List Char) : (ofList characters).chars = characters := rfl

@[simp]
theorem size_ofList (characters : List Char) :
    (ofList characters).size = characters.length := rfl

/-- The place of an offset. -/
def placeAt (source : Source) (offset : Nat) : Place :=
  Place.first.after (source.chars.take offset)

/-- The lines of a source; an empty source has one empty line. -/
def lines (source : Source) : List (List Char) := linesOf source.chars

end Source

end Descent
