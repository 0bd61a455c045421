import Descent.Diagnostic
import Descent.Text.Source

/-!
# Cursors

A cursor is a source and an offset into it, with the text that is left kept beside them.  The offset
is never past the end, and the end itself is a position.  A cursor is immutable: moving it makes
another one.
-/

namespace Descent

/-- A position in a source. -/
structure Cursor where
  source : Source
  /-- Number of characters before the position. -/
  offset : Nat
  /-- Characters from the position to the end. -/
  rest : List Char
  offset_le : offset ≤ source.size
  rest_eq : rest = source.chars.drop offset

namespace Cursor

theorem ext {left right : Cursor} (source_eq : left.source = right.source)
    (offset_eq : left.offset = right.offset) : left = right := by
  obtain ⟨leftSource, leftOffset, leftRest, leftLe, leftEq⟩ := left
  obtain ⟨rightSource, rightOffset, rightRest, rightLe, rightEq⟩ := right
  simp only at source_eq offset_eq
  subst source_eq offset_eq leftEq rightEq
  rfl

/-- The position before the first character. -/
def start (source : Source) : Cursor :=
  ⟨source, 0, source.chars, Nat.zero_le _, rfl⟩

/-- The position at an offset that is not past the end. -/
def ofOffset (source : Source) (offset : Nat) (offset_le : offset ≤ source.size) : Cursor :=
  ⟨source, offset, source.chars.drop offset, offset_le, rfl⟩

/-- The position at an offset, unless it is outside the source. -/
def ofOffset? (source : Source) (offset : Int) : Option Cursor :=
  if inside : 0 ≤ offset ∧ offset ≤ source.size then
    some (Cursor.ofOffset source offset.toNat (by omega))
  else none

/-- Number of characters from the position to the end. -/
def remaining (cursor : Cursor) : Nat := cursor.source.size - cursor.offset

theorem length_rest (cursor : Cursor) : cursor.rest.length = cursor.remaining := by
  rw [cursor.rest_eq, List.length_drop, remaining, cursor.source.size_eq]

/-- No character is left. -/
def isAtEnd (cursor : Cursor) : Bool := decide (cursor.source.size ≤ cursor.offset)

/-- The character at the position. -/
def current? (cursor : Cursor) : Option Char := cursor.rest.head?

/-- The text from the position to the end. -/
def remainingText (cursor : Cursor) : String := String.ofList cursor.rest

/-- The text at the position begins with given characters. -/
def startsWith (cursor : Cursor) (characters : List Char) : Bool :=
  characters.isPrefixOf cursor.rest

/-- The position some characters further on, or the end if that is nearer. -/
def forward (cursor : Cursor) (count : Nat) : Cursor where
  source := cursor.source
  offset := min (cursor.offset + count) cursor.source.size
  rest := cursor.rest.drop count
  offset_le := Nat.min_le_right _ _
  rest_eq := by
    rw [cursor.rest_eq, List.drop_drop]
    by_cases inside : cursor.offset + count ≤ cursor.source.size
    · rw [Nat.min_eq_left inside]
    · have past : cursor.source.chars.length ≤ cursor.offset + count := by
        rw [← cursor.source.size_eq]
        omega
      rw [Nat.min_eq_right (by omega), List.drop_of_length_le past, cursor.source.size_eq,
        List.drop_length]

@[simp]
theorem source_forward (cursor : Cursor) (count : Nat) :
    (cursor.forward count).source = cursor.source := rfl

@[simp]
theorem rest_forward (cursor : Cursor) (count : Nat) :
    (cursor.forward count).rest = cursor.rest.drop count := rfl

theorem offset_forward (cursor : Cursor) (count : Nat) :
    (cursor.forward count).offset = min (cursor.offset + count) cursor.source.size := rfl

theorem offset_le_offset_forward (cursor : Cursor) (count : Nat) :
    cursor.offset ≤ (cursor.forward count).offset := by
  have := cursor.offset_le
  rw [offset_forward]
  omega

/-- The offset that a move by a signed count aims at, cut off at the end. -/
def target (cursor : Cursor) (count : Int) : Int :=
  min ((cursor.offset : Int) + count) (cursor.source.size : Int)

/-- An end of a slice: a negative one counts from the end of the source. -/
def sliceEnd (cursor : Cursor) (stop : Int) : Nat :=
  if stop < 0 then (stop + cursor.source.size).toNat else stop.toNat

/-- The text between the position and an end of a slice. -/
def sliceTo (cursor : Cursor) (stop : Int) : String :=
  String.ofList (cursor.rest.take (cursor.sliceEnd stop - cursor.offset))

/-- The line and the column of the position. -/
def place (cursor : Cursor) : Place := cursor.source.placeAt cursor.offset

theorem one_le_of_after (place : Place) (characters : List Char) (line : 1 ≤ place.line)
    (column : 1 ≤ place.column) :
    1 ≤ (place.after characters).line ∧ 1 ≤ (place.after characters).column := by
  induction characters generalizing place with
  | nil => exact ⟨line, column⟩
  | cons character characters induction =>
      rw [Place.after_cons]
      apply induction <;> unfold Place.step <;> split <;> simp only <;> omega

/-- The empty span at the position. -/
def span (cursor : Cursor) : Span where
  start := cursor.offset
  stop := cursor.offset
  line := cursor.place.line
  column := cursor.place.column
  start_le_stop := Nat.le_refl _
  one_le_line := (one_le_of_after Place.first _ (Nat.le_refl 1) (Nat.le_refl 1)).1
  one_le_column := (one_le_of_after Place.first _ (Nat.le_refl 1) (Nat.le_refl 1)).2

/-- Equality of positions: the same text and the same offset. -/
def same (left right : Cursor) : Bool :=
  left.offset == right.offset && left.source.chars == right.source.chars

end Cursor

end Descent
