import Mathlib.Data.List.Induction
import Descent.Cursor

/-!
# Places by counting

The place of an offset is found by counting in the text before it: the newline characters give the
line, and the characters behind the last of them give the column.  The span of a position is made of
its offset and its place, which are always the numbers of a valid span.
-/

namespace Descent

/-- Number of characters behind the last newline character, or of all if there is none. -/
def sinceNewline (characters : List Char) : Nat :=
  (characters.reverse.takeWhile (· ≠ '\n')).length

theorem sinceNewline_concat (characters : List Char) (character : Char) :
    sinceNewline (characters ++ [character]) =
      if character = '\n' then 0 else sinceNewline characters + 1 := by
  rw [sinceNewline, List.reverse_append, List.reverse_singleton, List.singleton_append,
    List.takeWhile_cons]
  by_cases newline : character = '\n'
  · simp [newline]
  · simp [newline, sinceNewline]

/-- The place behind some characters counts the newline characters and what follows the last. -/
theorem Place.after_first (characters : List Char) :
    first.after characters = ⟨characters.count '\n' + 1, sinceNewline characters + 1⟩ := by
  -- The last character alone decides whether a new line is begun.
  induction characters using List.reverseRecOn with
  | nil => rfl
  | append_singleton characters character induction =>
      rw [after_append, induction, after_cons, after_nil, step, List.count_append,
        List.count_singleton, sinceNewline_concat]
      by_cases newline : character = '\n' <;> simp [newline]

theorem Source.placeAt_eq (source : Source) (offset : Nat) :
    source.placeAt offset =
      ⟨(source.chars.take offset).count '\n' + 1, sinceNewline (source.chars.take offset) + 1⟩ :=
  Place.after_first _

/-- The empty span at an offset of a text, with line and column found by counting. -/
structure Span.IsAt (span : Span) (characters : List Char) (offset : Nat) : Prop where
  start_eq : span.start = offset
  stop_eq : span.stop = offset
  line_eq : span.line = (characters.take offset).count '\n' + 1
  column_eq : span.column = sinceNewline (characters.take offset) + 1

theorem Cursor.isAt_span (cursor : Cursor) :
    cursor.span.IsAt cursor.source.chars cursor.offset where
  start_eq := rfl
  stop_eq := rfl
  line_eq := congrArg Place.line (cursor.source.placeAt_eq cursor.offset)
  column_eq := congrArg Place.column (cursor.source.placeAt_eq cursor.offset)

/-- The numbers of a span are not refused. -/
theorem Span.ofNumbers_eq (span : Span) :
    ofNumbers span.start span.stop span.line span.column = .ok span := by
  obtain ⟨start, stop, line, column, start_le_stop, one_le_line, one_le_column⟩ := span
  have order : ¬ (stop : Int) < start := by omega
  have above : ¬ (line : Int) < 1 := by omega
  have left : ¬ (column : Int) < 1 := by omega
  simp [ofNumbers, order, above, left]

end Descent
