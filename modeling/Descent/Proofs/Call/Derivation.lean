import Descent.Proofs.Call.Token

/-!
# Derivations of call expressions

The grammar of call expressions as a context-free one: an alternative may be chosen, an optional
part left out and a repetition ended at any point.  A derivation is a tree of such choices; it has
a text, the values that it denotes, and a depth of calls.
-/

namespace Descent
namespace Call

/-- The symbols that the grammar defines. -/
inductive Symbol where
  | identifier
  | numberLiteral
  | trailingArgument
  | argumentList
  | call
  | expression
  deriving DecidableEq, Repr

/-- The name of the rule for a symbol. -/
def Symbol.rule : Symbol → String
  | identifier => "identifier"
  | numberLiteral => "number_literal"
  | trailingArgument => "trailing_arg"
  | argumentList => "argument_list"
  | call => "call"
  | expression => "expr"

/-- What the right side of a rule asks for. -/
inductive Phrase where
  | once (symbol : Symbol)
  /-- An argument list or nothing. -/
  | optionalArguments
  /-- Any number of trailing arguments. -/
  | trailingArguments
  deriving DecidableEq, Repr

/-- A derivation of a phrase. -/
inductive Derivation : Phrase → Type where
  | identifier (name : Identifier) : Derivation (.once .identifier)
  | numberLiteral (literal : Literal) : Derivation (.once .numberLiteral)
  /-- A comma and an expression. -/
  | trailingArgument (argument : Derivation (.once .expression)) :
      Derivation (.once .trailingArgument)
  | argumentList (first : Derivation (.once .expression))
      (others : Derivation .trailingArguments) : Derivation (.once .argumentList)
  /-- A target, and the arguments in parentheses. -/
  | call (target : Derivation (.once .identifier)) (arguments : Derivation .optionalArguments) :
      Derivation (.once .call)
  /-- The first alternative for an expression. -/
  | ofCall (call : Derivation (.once .call)) : Derivation (.once .expression)
  /-- The second alternative for an expression. -/
  | ofNumber (number : Derivation (.once .numberLiteral)) : Derivation (.once .expression)
  | noArguments : Derivation .optionalArguments
  | someArguments (arguments : Derivation (.once .argumentList)) : Derivation .optionalArguments
  | noMore : Derivation .trailingArguments
  | more (first : Derivation (.once .trailingArgument)) (others : Derivation .trailingArguments) :
      Derivation .trailingArguments

namespace Derivation

/-- The text that is derived. -/
def text : {phrase : Phrase} → Derivation phrase → List Char
  | _, identifier name => name.text
  | _, numberLiteral literal => literal.text
  | _, trailingArgument argument => ',' :: argument.text
  | _, argumentList first others => first.text ++ others.text
  | _, call target arguments => target.text ++ '(' :: (arguments.text ++ [')'])
  | _, ofCall inner => inner.text
  | _, ofNumber inner => inner.text
  | _, noArguments => []
  | _, someArguments arguments => arguments.text
  | _, noMore => []
  | _, more first others => first.text ++ others.text

/-- The values that are denoted, in order of the text, those of an argument list side by side. -/
def values : {phrase : Phrase} → Derivation phrase → List Value
  | _, identifier name => [.text (String.ofList name.text)]
  | _, numberLiteral literal => [.number literal.number]
  | _, trailingArgument argument => argument.values
  | _, argumentList first others => first.values ++ others.values
  | _, call target arguments => [.call (String.ofList target.text) arguments.values]
  | _, ofCall inner => inner.values
  | _, ofNumber inner => inner.values
  | _, noArguments => []
  | _, someArguments arguments => arguments.values
  | _, noMore => []
  | _, more first others => first.values ++ others.values

/-- The value of a symbol: one value, or the tuple of all for an argument list. -/
def value {symbol : Symbol} (derivation : Derivation (.once symbol)) : Value :=
  if symbol = .argumentList then .tuple derivation.values else derivation.values.headD .null

/-- The greatest number of calls inside one another. -/
def depth : {phrase : Phrase} → Derivation phrase → Nat
  | _, identifier _ => 0
  | _, numberLiteral _ => 0
  | _, trailingArgument argument => argument.depth
  | _, argumentList first others => max first.depth others.depth
  | _, call _ arguments => arguments.depth + 1
  | _, ofCall inner => inner.depth
  | _, ofNumber _ => 0
  | _, noArguments => 0
  | _, someArguments arguments => arguments.depth
  | _, noMore => 0
  | _, more first others => max first.depth others.depth

theorem text_ne_nil : ∀ {symbol : Symbol} (derivation : Derivation (.once symbol)),
    derivation.text ≠ []
  | _, identifier name => List.cons_ne_nil name.first name.others
  | _, numberLiteral literal => by simp [text, Literal.text, literal.whole_ne_nil]
  | _, trailingArgument argument => List.cons_ne_nil ',' argument.text
  | _, argumentList first _ => fun empty => first.text_ne_nil (List.append_eq_nil_iff.mp empty).1
  | _, call _ _ => by simp [text]
  | _, ofCall inner => inner.text_ne_nil
  | _, ofNumber inner => inner.text_ne_nil

theorem value_of_values {symbol : Symbol} {derivation : Derivation (.once symbol)} {value : Value}
    (ordinary : symbol ≠ .argumentList) (values_eq : derivation.values = [value]) :
    derivation.value = value := by
  rw [Derivation.value, if_neg ordinary, values_eq, List.headD_cons]

/-- Everything but an argument list denotes one value. -/
theorem values_eq_singleton : ∀ {symbol : Symbol} (derivation : Derivation (.once symbol)),
    symbol ≠ .argumentList → derivation.values = [derivation.value]
  | _, identifier _, _ => rfl
  | _, numberLiteral _, _ => rfl
  | _, trailingArgument argument, ordinary => by
      have single := argument.values_eq_singleton (by decide)
      rw [values, single, value_of_values ordinary single]
  | _, argumentList _ _, ordinary => absurd rfl ordinary
  | _, call _ _, _ => rfl
  | _, ofCall inner, ordinary => by
      have single := inner.values_eq_singleton (by decide)
      rw [values, single, value_of_values ordinary single]
  | _, ofNumber inner, ordinary => by
      have single := inner.values_eq_singleton (by decide)
      rw [values, single, value_of_values ordinary single]

end Derivation

end Call
end Descent
