import Descent.Fault
import Descent.Pattern

/-!
# Parsers

A parser is a term: primitives that read the text, combinators that join parsers, references to
named rules, and parsers whose construction is put off until they are first needed.  The terms say
nothing about how they are run; that is the business of `Parser.run`.
-/

namespace Descent

/-- A parser. -/
inductive Parser where
  /-- The given text itself. -/
  | literal (text : String) (nonempty : text ≠ "")
  /-- The text that a pattern takes; a failure is reported under the label. -/
  | pattern (described : Pattern) (label : String)
  /-- The end of the text, with no value. -/
  | endOfInput
  /-- Any function of the position. -/
  | primitive (answer : Cursor → Except Fault Outcome)
  /-- The first alternative that matches. -/
  | anyOf (alternatives : List Parser)
  /-- The body or nothing. -/
  | optional (body : Parser)
  /-- The body as often as it matches. -/
  | many (body : Parser)
  /-- All steps, one after another. -/
  | sequence (steps : List Parser)
  /-- The body with its value changed. -/
  | transform (function : Value → Value) (body : Parser)
  /-- The body, each attempt being logged under a name. -/
  | traced (name : String) (body : Parser)
  /-- The body, each attempt being reported as an event under a tag. -/
  | observed (tag : String) (body : Parser)
  /--
  A parser built on first use and kept under the number of its cell.  `references` are the rules
  mentioned by the time its construction ends, and `product` is what the construction yields.
  -/
  | deferred (cell : Nat) (tag : String) (references : List String)
      (product : Except Fault Parser)
  /-- The rule of a name, looked up when the parser is run. -/
  | rule (name : String)

instance : Inhabited Parser := ⟨.endOfInput⟩

namespace Parser

/-- The parser of a text, which must not be empty. -/
def literal? (text : String) : Except Fault Parser :=
  if empty : text = "" then .error .emptyLiteral else .ok (literal text empty)

/-- A failure with a label at a fixed offset of the text. -/
def failAt (offset : Int) (label : String) : Parser :=
  primitive fun cursor =>
    match Cursor.locate cursor.source offset with
    | .error fault => .error fault
    | .ok position => .ok (.failed ⟨label, position⟩)

/-- A match of no text with a given value. -/
def succeed (value : Value) : Parser := primitive fun cursor => .ok (.matched value cursor)

mutual

/-- Number of nodes of a term, a put-off construction included. -/
def weight : Parser → Nat
  | literal _ _ => 1
  | pattern _ _ => 1
  | endOfInput => 1
  | primitive _ => 1
  | anyOf alternatives => 1 + weightAll alternatives
  | optional body => 1 + weight body
  | many body => 1 + weight body
  | sequence steps => 1 + weightAll steps
  | transform _ body => 1 + weight body
  | traced _ body => 1 + weight body
  | observed _ body => 1 + weight body
  | deferred _ _ _ product => 1 + weightProduct product
  | rule _ => 1

/-- Number of nodes of some terms. -/
def weightAll : List Parser → Nat
  | [] => 0
  | parser :: parsers => weight parser + weightAll parsers

/-- Number of nodes of what a construction yields. -/
def weightProduct : Except Fault Parser → Nat
  | .error _ => 0
  | .ok body => weight body

end

end Parser

end Descent
