import Descent.Pattern

/-!
# Reading patterns

The written form of patterns: characters and escapes, `.`, character sets in brackets, groups,
alternatives, the anchors `^` and `$`, and the quantifiers `*`, `+`, `?` and counts in braces, each
greedy unless a question mark follows.  A text without meaning is refused.
-/

namespace Descent
namespace Pattern

/-- A part of a pattern that was read, and the text after it. -/
abbrev Reading (α : Type) := Option (α × List Char)

/-- The character that a backslash and a character denote; other letters and digits are reserved. -/
def escaped? (character : Char) : Option Char :=
  if character = 'n' then some '\n'
  else if character = 't' then some '\t'
  else if character = 'r' then some '\r'
  else if character = 'f' then some '\x0c'
  else if character = 'v' then some '\x0b'
  else if character = 'a' then some '\x07'
  else if isLetter character || isDigit character then none
  else some character

/-- One end of a range in a set. -/
def readSetCharacter : List Char → Reading Char
  | [] => none
  | '\\' :: rest =>
      match rest with
      | [] => none
      | character :: others => (escaped? character).map (·, others)
  | character :: rest => some (character, rest)

/-- The ranges of a set up to its bracket.  A bracket that comes first is a member. -/
def readRanges : Nat → List (Char × Char) → List Char → Reading (List (Char × Char))
  | 0, _, _ => none
  | fuel + 1, ranges, characters =>
      if characters.head? = some ']' ∧ ranges ≠ [] then some (ranges.reverse, characters.tail)
      else
        match readSetCharacter characters with
        | none => none
        | some (first, '-' :: ']' :: rest) =>
            some ((('-', '-') :: (first, first) :: ranges).reverse, rest)
        | some (first, '-' :: rest) =>
            match readSetCharacter rest with
            | none => none
            | some (last, others) =>
                if first ≤ last then readRanges fuel ((first, last) :: ranges) others else none
        | some (first, rest) => readRanges fuel ((first, first) :: ranges) rest

/-- A set after its opening bracket. -/
def readSet (characters : List Char) : Reading CharSet :=
  let (negated, members) :=
    match characters with
    | '^' :: rest => (true, rest)
    | rest => (false, rest)
  (readRanges (characters.length + 1) [] members).map fun (ranges, rest) =>
    (⟨negated, ranges⟩, rest)

/-- Numbers of copies, the lowest and the highest. -/
abbrev Bounds := Nat × Option Nat

/-- The counts of a quantifier in braces after its opening brace. -/
def readCounts (characters : List Char) : Reading Bounds :=
  let lowest := characters.takeWhile isDigit
  let afterLowest := characters.dropWhile isDigit
  let least := digitsValue lowest
  match afterLowest with
  | '\x7d' :: rest => if lowest = [] then none else some ((least, some least), rest)
  | ',' :: others =>
      let highest := others.takeWhile isDigit
      match others.dropWhile isDigit with
      | '\x7d' :: rest =>
          some ((least, if highest = [] then none else some (digitsValue highest)), rest)
      | _ => none
  | _ => none

/-- A quantifier.  Braces without counts are no quantifier. -/
def readQuantifier : List Char → Reading Bounds
  | '*' :: rest => some ((0, none), rest)
  | '+' :: rest => some ((1, none), rest)
  | '?' :: rest => some ((0, some 1), rest)
  | '\x7b' :: rest => readCounts rest
  | _ => none

/-- The lowest count is not above the highest. -/
def Bounds.valid (bounds : Bounds) : Bool :=
  match bounds.2 with
  | some highest => decide (bounds.1 ≤ highest)
  | none => true

/-- The repetition of a body; a greedy repetition of a set is a run. -/
def repetition (body : Pattern) (bounds : Bounds) (greedy : Bool) : Pattern :=
  match body, greedy with
  | one set, true => run set bounds.1 bounds.2
  | _, _ => repeated body bounds.1 bounds.2 greedy

/-- The text starts with an anchor, which takes no quantifier. -/
def startsWithAnchor (characters : List Char) : Bool :=
  characters.head? == some '^' || characters.head? == some '$'

/-- The body with the quantifier that follows it, if one does and the body may take it. -/
def readQuantified (body : Pattern) (isAnchor : Bool) (characters : List Char) :
    Reading Pattern :=
  match readQuantifier characters with
  | none => some (body, characters)
  | some (bounds, rest) =>
      if isAnchor || !bounds.valid then none
      else
        let (greedy, others) :=
          match rest with
          | '?' :: others => (false, others)
          | others => (true, others)
        if (readQuantifier others).isSome then none
        else some (repetition body bounds greedy, others)

/-- Pieces one after another. -/
def concatAll : List Pattern → Pattern
  | [] => empty
  | piece :: [] => piece
  | piece :: pieces => concat piece (concatAll pieces)

mutual

/-- Alternatives up to a closing parenthesis or the end. -/
def readAlternatives : Nat → List Char → Reading Pattern
  | 0, _ => none
  | fuel + 1, characters =>
      match readPieces fuel [] characters with
      | none => none
      | some (first, '|' :: rest) =>
          (readAlternatives fuel rest).map fun (others, after) => (either first others, after)
      | some (first, rest) => some (first, rest)

/-- Pieces up to a bar, a closing parenthesis or the end. -/
def readPieces : Nat → List Pattern → List Char → Reading Pattern
  | 0, _, _ => none
  | fuel + 1, pieces, characters =>
      match characters with
      | [] => some (concatAll pieces.reverse, [])
      | '|' :: rest => some (concatAll pieces.reverse, '|' :: rest)
      | ')' :: rest => some (concatAll pieces.reverse, ')' :: rest)
      | _ =>
          match readAtom fuel characters with
          | none => none
          | some (body, rest) =>
              match readQuantified body (startsWithAnchor characters) rest with
              | none => none
              | some (piece, others) => readPieces fuel (piece :: pieces) others

/-- One piece without its quantifier. -/
def readAtom : Nat → List Char → Reading Pattern
  | 0, _ => none
  | _ + 1, [] => none
  | fuel + 1, character :: rest =>
      if (readQuantifier (character :: rest)).isSome then none
      else if character = '.' then some (one .notNewline, rest)
      else if character = '^' then some (startOfText, rest)
      else if character = '$' then some (endOfText, rest)
      else if character = '[' then (readSet rest).map fun (set, others) => (one set, others)
      else if character = '\\' then
        match rest with
        | [] => none
        | next :: others => (escaped? next).map fun denoted => (one (.single denoted), others)
      else if character = '(' then
        let body :=
          match rest with
          | '?' :: ':' :: others => some others
          | '?' :: _ => none
          | others => some others
        match body with
        | none => none
        | some inner =>
            match readAlternatives fuel inner with
            | some (group, ')' :: others) => some (group, others)
            | _ => none
      else some (one (.single character), rest)

end

/-- The pattern that a text denotes. -/
def ofText? (text : String) : Option Pattern :=
  let characters := text.toList
  match readAlternatives (2 * characters.length + 2) characters with
  | some (pattern, []) => some pattern
  | _ => none

end Pattern
end Descent
