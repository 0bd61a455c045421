import Descent.Proofs.Text.Place

/-!
# Lines and places

The characters in front of a position are complete lines, each with the newline character that ends
it, and the front of one more line.  The place of the position numbers that line and counts that
front.  So a place is the place of one offset only, and places are ordered as offsets are.
-/

namespace Descent

/-! ## The lines of a text -/

theorem linesOf_newline_cons (characters : List Char) :
    linesOf ('\n' :: characters) = [] :: linesOf characters := rfl

theorem linesOf_cons_of_ne {character : Char} (plain : character ≠ '\n')
    {characters line : List Char} {lines : List (List Char)}
    (lines_eq : linesOf characters = line :: lines) :
    linesOf (character :: characters) = (character :: line) :: lines := by
  rw [linesOf_cons, lines_eq, prependToLines.eq_def, if_neg plain]

/-- The lines of a text are the pieces between its newline characters. -/
theorem linesOf_eq_splitOn (characters : List Char) :
    linesOf characters = characters.splitOn '\n' := by
  induction characters with
  | nil => rfl
  | cons character characters induction =>
      rw [List.splitOn_cons_eq_if_modifyHead, ← induction]
      by_cases newline : character = '\n'
      · rw [newline, linesOf_newline_cons, if_pos (beq_self_eq_true _)]
      · obtain ⟨line, lines, lines_eq⟩ := List.exists_cons_of_ne_nil (linesOf_ne_nil characters)
        rw [linesOf_cons_of_ne newline lines_eq, lines_eq, if_neg (by simpa using newline)]
        rfl

/-- Characters within a line stand in front of the first line of what follows. -/
theorem linesOf_append {front : List Char} (oneLine : '\n' ∉ front) {rest back : List Char}
    {behind : List (List Char)} (lines_eq : linesOf rest = back :: behind) :
    linesOf (front ++ rest) = (front ++ back) :: behind := by
  induction front with
  | nil => exact lines_eq
  | cons character front induction =>
      obtain ⟨plain, oneLine⟩ := not_or.mp (mt List.mem_cons.mpr oneLine)
      exact linesOf_cons_of_ne (Ne.symm plain) (induction oneLine)

/-- The text of complete lines, each with the newline character that ends it. -/
def ended (lines : List (List Char)) : List Char := lines.flatMap (· ++ ['\n'])

theorem ended_cons (line : List Char) (lines : List (List Char)) :
    ended (line :: lines) = line ++ '\n' :: ended lines := by
  rw [ended, List.flatMap_cons, List.append_assoc]
  rfl

theorem ended_append (first second : List (List Char)) :
    ended (first ++ second) = ended first ++ ended second := List.flatMap_append

theorem ended_concat (lines : List (List Char)) (line : List Char) :
    ended (lines ++ [line]) = ended lines ++ (line ++ ['\n']) := by
  rw [ended_append, ended_cons]
  rfl

/-- Complete lines are the first lines of a text. -/
theorem linesOf_ended_append {lines : List (List Char)} (oneLine : ∀ line ∈ lines, '\n' ∉ line)
    (rest : List Char) : linesOf (ended lines ++ rest) = lines ++ linesOf rest := by
  induction lines with
  | nil => rfl
  | cons line lines induction =>
      rw [List.forall_mem_cons] at oneLine
      have first := linesOf_append oneLine.1 (linesOf_newline_cons (ended lines ++ rest))
      rw [ended_cons, List.append_assoc, List.cons_append, first, List.append_nil,
        induction oneLine.2, List.cons_append]

/-- The first line of a text begins with its first character, unless that ends the line. -/
theorem head?_of_linesOf {characters line : List Char} {lines : List (List Char)}
    (lines_eq : linesOf characters = line :: lines) :
    line.head? = characters.head?.filter (· ≠ '\n') := by
  cases characters with
  | nil =>
      obtain ⟨rfl, -⟩ := List.cons.inj lines_eq
      rfl
  | cons character characters =>
      by_cases newline : character = '\n'
      · rw [newline, linesOf_newline_cons] at lines_eq
        obtain ⟨rfl, -⟩ := List.cons.inj lines_eq
        rw [newline]
        rfl
      · obtain ⟨first, others, others_eq⟩ := List.exists_cons_of_ne_nil (linesOf_ne_nil characters)
        rw [linesOf_cons_of_ne newline others_eq] at lines_eq
        obtain ⟨rfl, -⟩ := List.cons.inj lines_eq
        rw [List.head?_cons, List.head?_cons, Option.filter_some, if_pos (by simpa using newline)]

/-! ## Where a position divides its text -/

/-- The place behind some characters numbers their complete lines and counts what follows. -/
theorem Place.exists_ended_of_after (taken : List Char) :
    ∃ before front, taken = ended before ++ front ∧ (∀ line ∈ before, '\n' ∉ line) ∧
      '\n' ∉ front ∧ first.after taken = ⟨before.length + 1, front.length + 1⟩ := by
  -- The last character alone decides whether one more line is complete.
  induction taken using List.reverseRecOn with
  | nil => exact ⟨[], [], rfl, nofun, nofun, rfl⟩
  | append_singleton taken character induction =>
      obtain ⟨before, front, rfl, complete, oneLine, place_eq⟩ := induction
      by_cases newline : character = '\n'
      · refine ⟨before ++ [front], [], ?_, ?_, nofun, ?_⟩
        · rw [newline, ended_concat, List.append_nil, List.append_assoc]
        · exact List.forall_mem_append.mpr ⟨complete, List.forall_mem_singleton.mpr oneLine⟩
        · rw [after_append, place_eq, after_cons, after_nil, step, if_pos newline,
            List.length_append]
          rfl
      · refine ⟨before, front ++ [character], (List.append_assoc ..).symm ▸ rfl, complete, ?_, ?_⟩
        · rw [List.mem_append, List.mem_singleton]
          exact not_or.mpr ⟨oneLine, Ne.symm newline⟩
        · rw [after_append, place_eq, after_cons, after_nil, step, if_neg newline,
            List.length_append]
          rfl

/-- A position divides its text: lines in front, its own line around it, and lines behind. -/
structure Cursor.Divides (cursor : Cursor) (before : List (List Char)) (front back : List Char)
    (behind : List (List Char)) : Prop where
  lines_eq : cursor.source.lines = before ++ (front ++ back) :: behind
  offset_eq : cursor.offset = (ended before).length + front.length
  place_eq : cursor.place = ⟨before.length + 1, front.length + 1⟩
  head?_eq : back.head? = cursor.current?.filter (· ≠ '\n')

theorem Cursor.exists_divides (cursor : Cursor) :
    ∃ before front back behind, cursor.Divides before front back behind := by
  obtain ⟨before, front, taken_eq, complete, oneLine, place_eq⟩ :=
    Place.exists_ended_of_after (cursor.source.chars.take cursor.offset)
  obtain ⟨back, behind, lines_eq⟩ := List.exists_cons_of_ne_nil (linesOf_ne_nil cursor.rest)
  refine ⟨before, front, back, behind, ?_, ?_, place_eq, head?_of_linesOf lines_eq⟩
  · have whole : cursor.source.chars = ended before ++ (front ++ cursor.rest) := by
      rw [← List.append_assoc, ← taken_eq, cursor.rest_eq, List.take_append_drop]
    rw [Source.lines, whole, linesOf_ended_append complete, linesOf_append oneLine lines_eq]
  · have inside := cursor.offset_le
    rw [cursor.source.size_eq] at inside
    rw [← List.length_append, ← taken_eq, List.length_take, Nat.min_eq_left inside]

/-! ## Places and offsets -/

/-- The first place comes before the second one: in an earlier line, or earlier in the line. -/
def Place.Before (first second : Place) : Prop :=
  first.line < second.line ∨ first.line = second.line ∧ first.column < second.column

instance (first second : Place) : Decidable (first.Before second) :=
  inferInstanceAs (Decidable (_ ∨ _))

/-- Number of characters in front of a line, with a newline character for each line. -/
def offsetOfLine (lines : List (List Char)) (line : Nat) : Nat :=
  (ended (lines.take (line - 1))).length

theorem offsetOfLine_succ {lines : List (List Char)} {line : Nat} {content : List Char}
    (inside : lines[line]? = some content) :
    offsetOfLine lines (line + 2) = offsetOfLine lines (line + 1) + (content.length + 1) := by
  have taken : lines.take (line + 1) = lines.take line ++ [content] := by
    rw [List.take_add_one, inside, Option.toList_some]
  show (ended (lines.take (line + 1))).length = _
  rw [taken, ended_concat, List.length_append, List.length_append]
  rfl

theorem offsetOfLine_mono {first second : Nat} (lines : List (List Char)) (le : first ≤ second) :
    offsetOfLine lines first ≤ offsetOfLine lines second := by
  obtain ⟨rest, taken⟩ : lines.take (first - 1) <+: lines.take (second - 1) :=
    List.take_prefix_take_left (by omega)
  rw [offsetOfLine, offsetOfLine, ← taken, ended_append, List.length_append]
  exact Nat.le_add_right _ _

/-- A place is inside of lines, and behind a number of characters. -/
structure Place.Locates (lines : List (List Char)) (offset : Nat) (place : Place) : Prop where
  one_le_line : 1 ≤ place.line
  line_le : place.line ≤ lines.length
  one_le_column : 1 ≤ place.column
  column_le : ∃ content, lines[place.line - 1]? = some content ∧ place.column ≤ content.length + 1
  offset_eq : offset = offsetOfLine lines place.line + (place.column - 1)

theorem Cursor.Divides.locates {cursor : Cursor} {before behind : List (List Char)}
    {front back : List Char} (divides : cursor.Divides before front back behind) :
    cursor.place.Locates cursor.source.lines cursor.offset := by
  rw [divides.lines_eq, divides.place_eq, divides.offset_eq]
  refine ⟨Nat.le_add_left 1 _, ?_, Nat.le_add_left 1 _, ⟨front ++ back, ?_, ?_⟩, ?_⟩
  · simp
  · simp
  · simp
  · simp [offsetOfLine]

theorem Cursor.locates (cursor : Cursor) :
    cursor.place.Locates cursor.source.lines cursor.offset := by
  obtain ⟨before, front, back, behind, divides⟩ := cursor.exists_divides
  exact divides.locates

theorem Place.Locates.offset_lt {lines : List (List Char)} {offset other : Nat}
    {first second : Place} (located : first.Locates lines offset)
    (locatedOther : second.Locates lines other) (before : first.Before second) :
    offset < other := by
  obtain ⟨content, inside, column_le⟩ := located.column_le
  have positive := located.one_le_line
  have column := located.one_le_column
  rw [located.offset_eq, locatedOther.offset_eq]
  rcases before with earlier | ⟨sameLine, left⟩
  · -- The offset is not behind the newline character of its line, where the next line begins.
    have next := offsetOfLine_succ inside
    have le := offsetOfLine_mono lines (show first.line - 1 + 2 ≤ second.line by omega)
    rw [Nat.sub_add_cancel positive] at next
    omega
  · rw [sameLine]
    omega

theorem Place.before_trichotomy (first second : Place) :
    first.Before second ∨ first = second ∨ second.Before first := by
  obtain ⟨line, column⟩ := first
  obtain ⟨otherLine, otherColumn⟩ := second
  simp only [Before, mk.injEq]
  omega

/-- The places of offsets in lines are ordered as the offsets are. -/
theorem Place.Locates.before_iff {lines : List (List Char)} {offset other : Nat}
    {first second : Place} (located : first.Locates lines offset)
    (locatedOther : second.Locates lines other) : first.Before second ↔ offset < other := by
  refine ⟨located.offset_lt locatedOther, fun lt => ?_⟩
  rcases first.before_trichotomy second with before | rfl | behind
  · exact before
  · rw [located.offset_eq, locatedOther.offset_eq] at lt
    exact absurd lt (Nat.lt_irrefl _)
  · exact absurd (locatedOther.offset_lt located behind) (Nat.lt_asymm lt)

/-- A newline character stands behind all other characters of its line. -/
theorem Cursor.column_eq_of_newline {cursor : Cursor} (newline : cursor.current? = some '\n') :
    ∃ content, cursor.source.lines[cursor.place.line - 1]? = some content ∧
      cursor.place.column = content.length + 1 := by
  obtain ⟨before, front, back, behind, divides⟩ := cursor.exists_divides
  have ends := divides.head?_eq
  rw [newline, Option.filter_some, if_neg (by decide), List.head?_eq_none_iff] at ends
  refine ⟨front, ?_, ?_⟩
  · rw [divides.lines_eq, divides.place_eq, ends, List.append_nil]
    simp
  · rw [divides.place_eq]

theorem Cursor.place_forward_one {cursor : Cursor} {character : Char}
    (current : cursor.current? = some character) :
    (cursor.forward 1).place = cursor.place.step character := by
  obtain ⟨rest, rest_eq⟩ := List.head?_eq_some_iff.mp current
  have chars_eq := cursor.rest_eq.symm.trans rest_eq
  have inside : cursor.offset < cursor.source.chars.length := by
    by_contra outside
    rw [List.drop_of_length_le (Nat.le_of_not_lt outside)] at chars_eq
    contradiction
  have next : min (cursor.offset + 1) cursor.source.size = cursor.offset + 1 := by
    rw [cursor.source.size_eq]
    exact Nat.min_eq_left inside
  have found : cursor.source.chars[cursor.offset]? = some character := by
    rw [← List.head?_drop, chars_eq, List.head?_cons]
  show cursor.source.placeAt (min (cursor.offset + 1) cursor.source.size) = _
  rw [next, Source.placeAt, List.take_add_one, found, Option.toList_some, Place.after_append]
  rfl

/--
Line and column identify an offset.  The line is one of the lines of the text, its pieces between
newline characters; the column is inside of it or one behind its end; and the offset is the number
of characters in the lines before, with a newline character each, and in front of the column.  So
the places of a text are as many as its offsets, in the same order.  A newline character belongs to
the line that it ends, and the numbers of a position always are those of a span.
-/
theorem Cursor.place_identifies_offset (cursor : Cursor) :
    cursor.source.lines = cursor.source.chars.splitOn '\n' ∧
      cursor.place.Locates cursor.source.lines cursor.offset ∧
      (∀ other : Cursor, other.source = cursor.source →
        (cursor.place = other.place ↔ cursor.offset = other.offset) ∧
          (cursor.place.Before other.place ↔ cursor.offset < other.offset)) ∧
      (cursor.current? = some '\n' →
        (∃ content, cursor.source.lines[cursor.place.line - 1]? = some content ∧
            cursor.place.column = content.length + 1) ∧
          (cursor.forward 1).place = ⟨cursor.place.line + 1, 1⟩) ∧
      Span.ofNumbers cursor.offset cursor.offset cursor.place.line cursor.place.column =
        .ok cursor.span := by
  refine ⟨linesOf_eq_splitOn _, cursor.locates, fun other source_eq => ?_, fun newline => ?_,
    cursor.span.ofNumbers_eq⟩
  · have located := cursor.locates
    have locatedOther := other.locates
    rw [source_eq] at locatedOther
    refine ⟨⟨fun place_eq => ?_, fun offset_eq => ?_⟩, located.before_iff locatedOther⟩
    · rw [located.offset_eq, locatedOther.offset_eq, place_eq]
    · rw [Cursor.ext source_eq.symm offset_eq]
  · exact ⟨Cursor.column_eq_of_newline newline, Cursor.place_forward_one newline⟩

/-- Two newline characters one after the other: the second one ends an empty line. -/
theorem Cursor.place_between_newlines :
    let source : Source := ⟨['a', '\n', '\n', 'b'], 4, rfl⟩
    let first := ofOffset source 1 (by decide)
    let second := ofOffset source 2 (by decide)
    (first.source = second.source ∧ first.current? = some '\n') ∧
      (first.place = ⟨1, 2⟩ ∧ second.place = ⟨2, 1⟩) ∧
      first.place.Before second.place ∧ (first.forward 1).place = ⟨first.place.line + 1, 1⟩ := by
  intro source first second
  obtain ⟨-, -, ordered, newline, -⟩ := first.place_identifies_offset
  have before := (ordered second rfl).2
  exact ⟨⟨rfl, rfl⟩, ⟨rfl, rfl⟩, before.mpr (by decide), (newline rfl).2⟩

end Descent
