import Descent.Text.Digits

/-!
# Patterns

A pattern describes texts by character sets, concatenation, ordered alternatives and repetition.  It
is matched at a position by backtracking: the first alternative for which the rest of the pattern
succeeds is taken, and a greedy repetition tries more copies before fewer.  Matching is by
continuations and structural on the pattern.
-/

namespace Descent

/-- A set of characters: some ranges, or all characters outside them. -/
structure CharSet where
  negated : Bool
  /-- First and last characters of the ranges. -/
  ranges : List (Char × Char)
  deriving DecidableEq, Repr

namespace CharSet

/-- The set of one character. -/
def single (character : Char) : CharSet := ⟨false, [(character, character)]⟩

/-- All characters but the newline. -/
def notNewline : CharSet := ⟨true, [('\n', '\n')]⟩

/-- Membership of a character. -/
def contains (set : CharSet) (character : Char) : Bool :=
  set.negated !=
    set.ranges.any fun (first, last) => decide (first ≤ character) && decide (character ≤ last)

end CharSet

/-- A description of texts. -/
inductive Pattern where
  | empty
  /-- One character of a set. -/
  | one (set : CharSet)
  /-- The start of the whole text. -/
  | startOfText
  /-- The end of the text, or the position before its final newline. -/
  | endOfText
  | concat (first second : Pattern)
  /-- The first alternative is preferred. -/
  | either (first second : Pattern)
  /-- As many characters of a set as possible, `least` or more and at most `most`. -/
  | run (set : CharSet) (least : Nat) (most : Option Nat)
  /-- `least` copies or more and at most `most`; greedy repetition prefers more copies. -/
  | repeated (body : Pattern) (least : Nat) (most : Option Nat) (greedy : Bool)
  deriving DecidableEq, Repr

namespace Pattern

/-- What is to be matched after a pattern: from an offset and the text there to the final offset. -/
abbrev Continuation := Nat → List Char → Option Nat

/--
Positions inside a run of characters of a set, the longest run first.  `taken` characters have been
passed, and `found` holds the positions of shorter runs.
-/
def runEnds (set : CharSet) (least : Nat) (most : Option Nat) (taken : Nat)
    (found : List (Nat × List Char)) (offset : Nat) : List Char → List (Nat × List Char)
  | [] => if least ≤ taken then (offset, []) :: found else found
  | character :: rest =>
      let extended :=
        if least ≤ taken then (offset, character :: rest) :: found else found
      if most ≠ some taken ∧ set.contains character then
        runEnds set least most (taken + 1) extended (offset + 1) rest
      else extended

/-- Continue from the first position that leads to an answer. -/
def firstOf (next : Continuation) : List (Nat × List Char) → Option Nat
  | [] => none
  | (offset, rest) :: others =>
      match next offset rest with
      | some answer => some answer
      | none => firstOf next others

/--
At most `count` further copies of a body, then the continuation.  A copy that takes no text ends the
repetition.
-/
def further (body : Continuation → Continuation) (greedy : Bool) (next : Continuation) :
    Nat → Continuation
  | 0 => next
  | count + 1 => fun offset rest =>
      let again : Continuation := fun newOffset newRest =>
        if newOffset = offset then next newOffset newRest
        else further body greedy next count newOffset newRest
      if greedy then
        match body again offset rest with
        | some answer => some answer
        | none => next offset rest
      else
        match next offset rest with
        | some answer => some answer
        | none => body again offset rest

/-- Match a pattern and then a continuation. -/
def matchThen : Pattern → Continuation → Continuation
  | empty, next => next
  | one set, next => fun offset rest =>
      match rest with
      | [] => none
      | character :: others => if set.contains character then next (offset + 1) others else none
  | startOfText, next => fun offset rest => if offset = 0 then next offset rest else none
  | endOfText, next => fun offset rest =>
      if rest = [] ∨ rest = ['\n'] then next offset rest else none
  | concat first second, next => matchThen first (matchThen second next)
  | either first second, next => fun offset rest =>
      match matchThen first next offset rest with
      | some answer => some answer
      | none => matchThen second next offset rest
  | run set least most, next => fun offset rest =>
      firstOf next (runEnds set least most 0 [] offset rest)
  | repeated body least most greedy, next =>
      Nat.repeat (matchThen body) least fun offset rest =>
        let count :=
          match most with
          | some limit => limit - least
          | none => rest.length + 1
        further (matchThen body) greedy next count offset rest

/-- The offset after the text that a pattern takes at an offset, if it matches there. -/
def matchEnd? (pattern : Pattern) (offset : Nat) (rest : List Char) : Option Nat :=
  matchThen pattern (fun stop _ => some stop) offset rest

/-- The pattern does not look at what precedes the position. -/
def isAnchorFree : Pattern → Bool
  | startOfText => false
  | concat first second => isAnchorFree first && isAnchorFree second
  | either first second => isAnchorFree first && isAnchorFree second
  | repeated body _ _ _ => isAnchorFree body
  | _ => true

end Pattern

end Descent
