import Descent.Outcome
import Descent.Proofs.Text.Lines

/-!
# Excerpts of a source

An excerpt shows the lines around a failure, each behind its number.  Below the line of the failure
stands a caret, under the character at the position of the failure, or behind the line if a newline
character or nothing is there.  All lines that are shown are lines of the source, and the margin of
the caret is as wide as that of its line, however many digits the number of the line has.
-/

namespace Descent
namespace Failure

/-! ## Lines behind their numbers -/

/-- A line as an excerpt shows it: its number in the margin, and its characters. -/
def shownLine (lines : List (List Char)) (number : Nat) : List Char :=
  gutter number ++ lines[number - 1]?.getD []

theorem length_gutter (number : Nat) :
    (gutter number).length = max 4 (digitsOf number).length + 3 := by
  simp only [gutter, List.length_append, List.length_replicate, List.length_cons, List.length_nil]
  omega

theorem excerptFrom_append (place : Place) (number : Nat) (first second : List (List Char)) :
    excerptFrom place number (first ++ second) =
      excerptFrom place number first ++ excerptFrom place (number + first.length) second := by
  induction first generalizing number with
  | nil => rfl
  | cons characters first induction =>
      have next : number + 1 + first.length = number + (first.length + 1) := by omega
      rw [List.cons_append, excerptFrom, excerptFrom, induction, next, List.length_cons]
      split <;> rfl

/-- Lines other than that of the place are shown behind their numbers. -/
theorem excerptFrom_range' (content : Nat → List Char) {place : Place} {number count : Nat}
    (apart : place.line ∉ List.range' number count) :
    excerptFrom place number ((List.range' number count).map content) =
      (List.range' number count).map fun number => gutter number ++ content number := by
  induction count generalizing number with
  | zero => rfl
  | succ count induction =>
      rw [List.range'_succ] at apart ⊢
      obtain ⟨different, apart⟩ := not_or.mp (mt List.mem_cons.mpr apart)
      rw [List.map_cons, excerptFrom, if_neg (Ne.symm different), induction apart, List.map_cons]

/-- Some lines in a row, by their numbers. -/
theorem take_drop_eq_map_range' {lines : List (List Char)} {number count : Nat}
    (positive : 1 ≤ number) (inside : number - 1 + count ≤ lines.length) :
    (lines.drop (number - 1)).take count =
      (List.range' number count).map fun number => lines[number - 1]?.getD [] := by
  refine List.ext_getElem ?_ fun index within _ => ?_
  · rw [List.length_take, List.length_drop, List.length_map, List.length_range']
    omega
  · rw [List.length_take, List.length_drop] at within
    have shifted : number + 1 * index - 1 = number - 1 + index := by omega
    rw [List.getElem_take, List.getElem_drop, List.getElem_map, List.getElem_range', shifted,
      List.getElem?_eq_getElem (by omega), Option.getD_some]

/-- The lines around a place, with the caret below its line. -/
theorem excerpt_eq (failure : Failure) (radius : Nat) {first last : Nat}
    (first_eq : first = max 1 (failure.cursor.place.line - radius))
    (last_eq : last =
      min failure.cursor.source.lines.length (failure.cursor.place.line + radius)) :
    failure.excerpt radius =
      (List.range' first (failure.cursor.place.line - first + 1)).map
          (shownLine failure.cursor.source.lines) ++
        caretLine failure.cursor.place.line failure.cursor.place.column ::
          (List.range' (failure.cursor.place.line + 1) (last - failure.cursor.place.line)).map
            (shownLine failure.cursor.source.lines) := by
  have located := failure.cursor.locates
  have one_le := located.one_le_line
  have line_le := located.line_le
  simp only [excerpt]
  generalize failure.cursor.place = place at *
  generalize failure.cursor.source.lines = lines at *
  have first_toNat : (max 1 ((place.line : Int) - radius)).toNat = first := by omega
  have count_toNat : (min (lines.length : Int) (place.line + radius) -
      max 1 ((place.line : Int) - radius) + 1).toNat =
        (place.line - first) + (1 + (last - place.line)) := by omega
  have here : first + (place.line - first) = place.line := by omega
  have before : place.line ∉ List.range' first (place.line - first) := by
    rw [List.mem_range'_1]
    omega
  have behind : place.line ∉ List.range' (place.line + 1) (last - place.line) := by
    rw [List.mem_range'_1]
    omega
  rw [first_toNat, count_toNat, take_drop_eq_map_range' (by omega) (by omega),
    ← List.range'_append_1, here, List.map_append, excerptFrom_append, excerptFrom_range' _ before,
    List.length_map, List.length_range', here, Nat.add_comm 1, List.range'_succ, List.map_cons,
    excerptFrom, if_pos rfl, excerptFrom_range' _ behind, List.range'_1_concat, here,
    List.map_append, List.append_assoc]
  rfl

/-! ## The caret -/

/-- A mark behind characters without it stands at one index only. -/
theorem getElem?_concat_eq_mark_iff {front : List Char} {mark : Char} (absent : mark ∉ front)
    (index : Nat) : (front ++ [mark])[index]? = some mark ↔ index = front.length := by
  constructor
  · intro found
    rcases Nat.lt_trichotomy index front.length with inside | here | outside
    · rw [List.getElem?_append_left inside] at found
      exact absurd (List.mem_of_getElem? found) absent
    · exact here
    · rw [List.getElem?_eq_none (by rw [List.length_append]; exact outside)] at found
      contradiction
  · rintro rfl
    exact List.getElem?_concat_length

/-- The only caret of its line stands behind the margin, under its column. -/
theorem getElem?_caretLine_eq_caret_iff {line column : Nat} (positive : 1 ≤ column) (index : Nat) :
    (caretLine line column)[index]? = some '^' ↔
      index = (gutter line).length + column - 1 := by
  have absent : '^' ∉ List.replicate ((gutter line).length - 2) ' ' ++ ['|', ' '] ++
      List.replicate (column - 1) ' ' := by
    simp [List.mem_replicate]
  rw [caretLine, getElem?_concat_eq_mark_iff absent]
  have width := length_gutter line
  simp only [List.length_append, List.length_replicate, List.length_cons, List.length_nil]
  omega

/-- The line of a divided text that is shown for the place of the division. -/
theorem shownLine_of_divides {failure : Failure} {before behind : List (List Char)}
    {front back : List Char} (divides : failure.cursor.Divides before front back behind) :
    shownLine failure.cursor.source.lines failure.cursor.place.line =
      gutter failure.cursor.place.line ++ front ++ back := by
  have found : failure.cursor.source.lines[before.length + 1 - 1]? = some (front ++ back) := by
    rw [divides.lines_eq, Nat.add_sub_cancel, List.getElem?_append_right (Nat.le_refl _),
      Nat.sub_self, List.getElem?_cons_zero]
  rw [shownLine, divides.place_eq, found, Option.getD_some, List.append_assoc]

/-- The characters in front of the caret are as many as those in front of the division. -/
theorem index_of_divides {failure : Failure} {before behind : List (List Char)}
    {front back : List Char} (divides : failure.cursor.Divides before front back behind) :
    (gutter failure.cursor.place.line).length + failure.cursor.place.column - 1 =
      (gutter failure.cursor.place.line ++ front).length := by
  rw [divides.place_eq, List.length_append]
  rfl

/-- The caret points at the character of the failure, if its line has one there. -/
theorem getElem?_shownLine (failure : Failure) :
    (shownLine failure.cursor.source.lines failure.cursor.place.line)[
        (gutter failure.cursor.place.line).length + failure.cursor.place.column - 1]? =
      failure.cursor.current?.filter (· ≠ '\n') := by
  obtain ⟨before, front, back, behind, divides⟩ := failure.cursor.exists_divides
  rw [shownLine_of_divides divides, index_of_divides divides,
    List.getElem?_append_right (Nat.le_refl _), Nat.sub_self, ← List.head?_eq_getElem?,
    divides.head?_eq]

/-- Where the line of the failure has no further character, the caret points behind it. -/
theorem length_shownLine {failure : Failure}
    (ends : failure.cursor.current? = none ∨ failure.cursor.current? = some '\n') :
    (shownLine failure.cursor.source.lines failure.cursor.place.line).length =
      (gutter failure.cursor.place.line).length + failure.cursor.place.column - 1 := by
  obtain ⟨before, front, back, behind, divides⟩ := failure.cursor.exists_divides
  have head?_eq : back.head? = none := by
    rw [divides.head?_eq]
    rcases ends with ends | ends <;> rw [ends] <;> rfl
  rw [shownLine_of_divides divides, index_of_divides divides,
    List.head?_eq_none_iff.mp head?_eq, List.append_nil]

/--
An excerpt points at the failure.  It consists of the headline, an empty line and the lines of the
source from a number of lines before the failure to as many behind it, as far as there are such
lines, each behind its number; below the line of the failure stands one more line.  The only caret
in it has the index that the character at the failure has in the line above; if a newline character
or nothing is there, the index is that of the end of the line above.
-/
theorem excerpt_points_at_failure (failure : Failure) (radius : Nat) :
    let place := failure.cursor.place
    let lines := failure.cursor.source.lines
    let first := max 1 (place.line - radius)
    let last := min lines.length (place.line + radius)
    let caret := caretLine place.line place.column
    let index := (gutter place.line).length + place.column - 1
    failure.withContext radius =
        "\n".intercalate
          (failure.headline :: "" ::
            ((List.range' first (place.line - first + 1)).map (shownLine lines) ++
              caret :: (List.range' (place.line + 1) (last - place.line)).map
                (shownLine lines)).map String.ofList) ∧
      (first ≤ place.line ∧ place.line ≤ last) ∧
      (∀ number, first ≤ number → number ≤ last → 1 ≤ number ∧ number ≤ lines.length) ∧
      (∀ other, caret[other]? = some '^' ↔ other = index) ∧
      (shownLine lines place.line)[index]? = failure.cursor.current?.filter (· ≠ '\n') ∧
      (failure.cursor.current? = none ∨ failure.cursor.current? = some '\n' →
        (shownLine lines place.line).length = index) := by
  intro place lines first last caret index
  have located : place.Locates lines failure.cursor.offset := failure.cursor.locates
  have one_le := located.one_le_line
  have line_le := located.line_le
  refine ⟨?_, ⟨by omega, by omega⟩, fun number _ _ => ⟨by omega, by omega⟩,
    getElem?_caretLine_eq_caret_iff located.one_le_column, failure.getElem?_shownLine,
    length_shownLine⟩
  rw [withContext, failure.excerpt_eq radius rfl rfl]

/-- A failure at the newline character of a line: the caret stands behind that line. -/
theorem excerpt_points_behind_line :
    let source : Source := ⟨['a', '\n', 'b', '\n'], 4, rfl⟩
    let failure : Failure := ⟨"digit", Cursor.ofOffset source 3 (by decide)⟩
    (failure.cursor.place = ⟨2, 2⟩ ∧ failure.cursor.current? = some '\n') ∧
      (1 ≤ 2 ∧ 2 ≤ source.lines.length) ∧
      (shownLine source.lines 2 = "   2 | b".toList ∧
        caretLine 2 2 = "     |  ^".toList) ∧
      (caretLine 2 2)[(shownLine source.lines 2).length]? = some '^' := by
  intro source failure
  obtain ⟨-, -, inside, caret, -, behind⟩ := failure.excerpt_points_at_failure 1
  refine ⟨⟨rfl, rfl⟩, inside 2 (by decide) (by decide), by decide, ?_⟩
  exact (caret _).mpr (behind (.inr rfl))

end Failure
end Descent
