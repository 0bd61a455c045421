import Descent.RuleSet

/-!
# The grammar of call expressions

    identifier     := letter (letter | digit)*
    number_literal := sign? digit+ ("." digit*)?
    trailing_arg   := "," expr
    argument_list  := expr trailing_arg*
    call           := identifier "(" argument_list? ")"
    expr           := call | number_literal

No blank is allowed anywhere.  A number literal denotes the nearest floating-point number, an
argument list the tuple of its arguments, and a call its target with its arguments.
-/

namespace Descent
namespace Call

/-- Letters of the ASCII range. -/
def letters : CharSet := ⟨false, [('A', 'Z'), ('a', 'z')]⟩

/-- Letters and digits of the ASCII range. -/
def lettersAndDigits : CharSet := ⟨false, [('A', 'Z'), ('a', 'z'), ('0', '9')]⟩

/-- Digits of the ASCII range. -/
def digits : CharSet := ⟨false, [('0', '9')]⟩

/-- The signs of a number. -/
def signs : CharSet := ⟨false, [('+', '+'), ('-', '-')]⟩

/-- A letter and any letters and digits. -/
def identifierPattern : Pattern := .concat (.one letters) (.run lettersAndDigits 0 none)

/-- A point and any digits. -/
def fractionPattern : Pattern := .concat (.one (.single '.')) (.run digits 0 none)

/-- An optional sign, digits, and an optional fraction. -/
def numberPattern : Pattern :=
  .concat (.run signs 0 (some 1))
    (.concat (.run digits 1 none) (.repeated fractionPattern 0 (some 1) true))

/-- The number that a literal denotes. -/
def numberOfText : Value → Value
  | .text literal =>
      match Decimal.read literal.toList with
      | some decimal => .number decimal.toBinary64
      | none => .null
  | _ => .null

/-- The argument behind a comma. -/
def argumentOfParts : Value → Value
  | .tuple [_, argument] => argument
  | _ => .null

/-- The tuple of a first argument and the others. -/
def argumentsOfParts : Value → Value
  | .tuple [first, .tuple others] => .tuple (first :: others)
  | _ => .null

/-- The call of a target, an opening mark, optional arguments and a closing mark. -/
def callOfParts : Value → Value
  | .tuple [.text target, _, .tuple arguments, _] => .call target arguments
  | .tuple [.text target, _, .null, _] => .call target []
  | _ => .null

/-- The expression in front of the end of the text. -/
def expressionOfParts : Value → Value
  | .tuple [expression, _] => expression
  | _ => .null

/-- The rules, in order of definition. -/
def rules : List (String × Parser) :=
  [("identifier", .pattern identifierPattern "identifier"),
    ("number_literal", .transform numberOfText (.pattern numberPattern "number")),
    ("trailing_arg",
      .transform argumentOfParts (.sequence [.literal "," (by decide), .rule "expr"])),
    ("argument_list",
      .transform argumentsOfParts (.sequence [.rule "expr", .many (.rule "trailing_arg")])),
    ("call",
      .transform callOfParts
        (.sequence
          [.rule "identifier", .literal "(" (by decide), .optional (.rule "argument_list"),
            .literal ")" (by decide)])),
    ("expr", .anyOf [.rule "call", .rule "number_literal"])]

/-- The grammar of call expressions. -/
def grammar : RuleSet := ⟨"calls", false, rules⟩

/-- What a run over the grammar looks up. -/
def environment : Environment := grammar.environment .warning

/-- An expression. -/
def expression : Parser := .rule "expr"

/-- An expression and the end of the text. -/
def wholeExpression : Parser :=
  .transform expressionOfParts (.sequence [expression, .endOfInput])

/-- The outcome of a rule at a position. -/
def ruleOutcome (rule : String) (cursor : Cursor) : Except Fault Outcome :=
  (Parser.rule rule).outcomeAt environment cursor

/-- A rule as a parser that can be used in other grammars. -/
def ruleParser (rule : String) : Parser := .primitive (ruleOutcome rule)

end Call
end Descent
