import Descent.Proofs.Call.Derivation

/-!
# Attempts to read call expressions

An attempt reads a phrase at the front of a text without ever taking back a choice, and ends with a
derivation or with what was expected after how much text.  Beside its ending an attempt has a
height, the greatest number of calls that are open at a time, complete or not.  Every text has
exactly one attempt for a phrase.
-/

namespace Descent
namespace Call

/-- How an attempt at a phrase ends. -/
inductive Ending (phrase : Phrase) where
  | complete (derivation : Derivation phrase)
  /-- The label of what was expected, and the text in front of that place. -/
  | broken (label : String) (taken : List Char)

/-- The text in front of the place where an attempt ends. -/
def Ending.taken {phrase : Phrase} : Ending phrase → List Char
  | complete derivation => derivation.text
  | broken _ taken => taken

/-- Reading a phrase at the front of a text, with how it ends and how high it gets. -/
inductive Attempt : (phrase : Phrase) → List Char → Ending phrase → Nat → Prop where
  | identifier {text rest : List Char} {name : Identifier}
      (split : Identifier.split? text = some (name, rest)) :
      Attempt (.once .identifier) text (.complete (.identifier name)) 0
  | noIdentifier {text : List Char} (split : Identifier.split? text = none) :
      Attempt (.once .identifier) text (.broken "identifier" []) 0
  | numberLiteral {text rest : List Char} {literal : Literal}
      (split : Literal.split? text = some (literal, rest)) :
      Attempt (.once .numberLiteral) text (.complete (.numberLiteral literal)) 0
  | noNumber {text : List Char} (split : Literal.split? text = none) :
      Attempt (.once .numberLiteral) text (.broken "number" []) 0
  | trailingArgument {rest : List Char} {argument : Derivation (.once .expression)} {height : Nat}
      (attempt : Attempt (.once .expression) rest (.complete argument) height) :
      Attempt (.once .trailingArgument) (',' :: rest)
        (.complete (.trailingArgument argument)) height
  | noComma {text : List Char} (head : text.head? ≠ some ',') :
      Attempt (.once .trailingArgument) text (.broken "," []) 0
  | noArgument {rest taken : List Char} {label : String} {height : Nat}
      (attempt : Attempt (.once .expression) rest (.broken label taken) height) :
      Attempt (.once .trailingArgument) (',' :: rest) (.broken label (',' :: taken)) height
  | argumentList {text rest : List Char} {first : Derivation (.once .expression)}
      {others : Derivation .trailingArguments} {firstHeight height : Nat}
      (attempt : Attempt (.once .expression) text (.complete first) firstHeight)
      (text_eq : text = first.text ++ rest)
      (further : Attempt .trailingArguments rest (.complete others) height) :
      Attempt (.once .argumentList) text (.complete (.argumentList first others))
        (max firstHeight height)
  | noFirst {text taken : List Char} {label : String} {height : Nat}
      (attempt : Attempt (.once .expression) text (.broken label taken) height) :
      Attempt (.once .argumentList) text (.broken label taken) height
  | call {text rest after : List Char} {name : Identifier}
      {arguments : Derivation .optionalArguments} {height : Nat}
      (split : Identifier.split? text = some (name, '(' :: rest))
      (attempt : Attempt .optionalArguments rest (.complete arguments) height)
      (rest_eq : rest = arguments.text ++ ')' :: after) :
      Attempt (.once .call) text (.complete (.call (.identifier name) arguments)) (height + 1)
  | noTarget {text : List Char} (split : Identifier.split? text = none) :
      Attempt (.once .call) text (.broken "identifier" []) 0
  | notOpened {text rest : List Char} {name : Identifier}
      (split : Identifier.split? text = some (name, rest)) (head : rest.head? ≠ some '(') :
      Attempt (.once .call) text (.broken "(" name.text) 0
  | notClosed {text rest after : List Char} {name : Identifier}
      {arguments : Derivation .optionalArguments} {height : Nat}
      (split : Identifier.split? text = some (name, '(' :: rest))
      (attempt : Attempt .optionalArguments rest (.complete arguments) height)
      (rest_eq : rest = arguments.text ++ after) (head : after.head? ≠ some ')') :
      Attempt (.once .call) text (.broken ")" (name.text ++ '(' :: arguments.text)) (height + 1)
  | ofCall {text : List Char} {inner : Derivation (.once .call)} {height : Nat}
      (attempt : Attempt (.once .call) text (.complete inner) height) :
      Attempt (.once .expression) text (.complete (.ofCall inner)) height
  | ofNumber {text taken : List Char} {label : String} {inner : Derivation (.once .numberLiteral)}
      {height numberHeight : Nat}
      (noCall : Attempt (.once .call) text (.broken label taken) height)
      (attempt : Attempt (.once .numberLiteral) text (.complete inner) numberHeight) :
      Attempt (.once .expression) text (.complete (.ofNumber inner)) (max height numberHeight)
  | noExpression {text taken numberTaken : List Char} {label numberLabel : String}
      {height numberHeight : Nat}
      (noCall : Attempt (.once .call) text (.broken label taken) height)
      (noNumber : Attempt (.once .numberLiteral) text (.broken numberLabel numberTaken)
        numberHeight) :
      Attempt (.once .expression) text (.broken label taken) (max height numberHeight)
  | noArguments {text taken : List Char} {label : String} {height : Nat}
      (attempt : Attempt (.once .argumentList) text (.broken label taken) height) :
      Attempt .optionalArguments text (.complete .noArguments) height
  | someArguments {text : List Char} {arguments : Derivation (.once .argumentList)} {height : Nat}
      (attempt : Attempt (.once .argumentList) text (.complete arguments) height) :
      Attempt .optionalArguments text (.complete (.someArguments arguments)) height
  | noMore {text taken : List Char} {label : String} {height : Nat}
      (attempt : Attempt (.once .trailingArgument) text (.broken label taken) height) :
      Attempt .trailingArguments text (.complete .noMore) height
  | more {text rest : List Char} {first : Derivation (.once .trailingArgument)}
      {others : Derivation .trailingArguments} {firstHeight height : Nat}
      (attempt : Attempt (.once .trailingArgument) text (.complete first) firstHeight)
      (text_eq : text = first.text ++ rest)
      (further : Attempt .trailingArguments rest (.complete others) height) :
      Attempt .trailingArguments text (.complete (.more first others)) (max firstHeight height)

/-- What follows the first part of a list is the rest of the list and what is behind it. -/
theorem rest_eq_of_list {text first others rest behind : List Char} (text_eq : text = first ++ rest)
    (list_eq : text = first ++ others ++ behind) : rest = others ++ behind := by
  rw [text_eq, List.append_assoc] at list_eq
  exact List.append_cancel_left list_eq

namespace Attempt

/-- What an attempt takes stands at the front of the text. -/
theorem taken_isPrefix {phrase : Phrase} {text : List Char} {ending : Ending phrase} {height : Nat}
    (attempt : Attempt phrase text ending height) : ending.taken <+: text := by
  induction attempt with
  | identifier split => exact ⟨_, (Identifier.eq_append_of_split? split).1.symm⟩
  | numberLiteral split => exact ⟨_, (Literal.eq_append_of_split? split).symm⟩
  | trailingArgument _ induction => exact List.cons_prefix_cons.mpr ⟨rfl, induction⟩
  | noArgument _ induction => exact List.cons_prefix_cons.mpr ⟨rfl, induction⟩
  | argumentList _ text_eq _ _ induction =>
      rw [text_eq]
      exact (List.prefix_append_right_inj _).mpr induction
  | noFirst _ induction => exact induction
  | @call _ _ after _ _ _ split _ rest_eq _ =>
      refine ⟨after, ?_⟩
      rw [(Identifier.eq_append_of_split? split).1, rest_eq]
      simp [Ending.taken, Derivation.text]
  | notOpened split _ => exact ⟨_, (Identifier.eq_append_of_split? split).1.symm⟩
  | notClosed split _ rest_eq _ _ =>
      rw [(Identifier.eq_append_of_split? split).1, rest_eq]
      simp [Ending.taken]
  | ofCall _ induction => exact induction
  | ofNumber _ _ _ induction => exact induction
  | noExpression _ _ induction _ => exact induction
  | someArguments _ induction => exact induction
  | more _ text_eq _ _ induction =>
      rw [text_eq]
      exact (List.prefix_append_right_inj _).mpr induction
  | noIdentifier | noNumber | noComma | noTarget | noArguments | noMore => exact List.nil_prefix

/-- A text has no two attempts for a phrase. -/
theorem unique {phrase : Phrase} {text : List Char} {ending other : Ending phrase}
    {height otherHeight : Nat} (attempt : Attempt phrase text ending height)
    (second : Attempt phrase text other otherHeight) : ending = other ∧ height = otherHeight := by
  induction attempt generalizing otherHeight with
  | identifier split | noIdentifier split | numberLiteral split | noNumber split
  | noTarget split => cases second <;> simp_all
  | noComma head | notOpened split head => cases second <;> grind
  | trailingArgument attempt induction | noArgument attempt induction
  | noFirst attempt induction | ofCall attempt induction | noArguments attempt induction
  | someArguments attempt induction | noMore attempt induction => cases second <;> grind
  | ofNumber noCall attempt induction numberInduction
  | noExpression noCall attempt induction numberInduction => cases second <;> grind
  | argumentList attempt text_eq further induction furtherInduction =>
      cases second with
      | noFirst secondAttempt => exact nomatch (induction secondAttempt).1
      | argumentList secondAttempt secondText_eq secondFurther =>
          obtain ⟨⟨rfl⟩, rfl⟩ := induction secondAttempt
          obtain rfl := List.append_cancel_left (text_eq.symm.trans secondText_eq)
          obtain ⟨⟨rfl⟩, rfl⟩ := furtherInduction secondFurther
          exact ⟨rfl, rfl⟩
  | more attempt text_eq further induction furtherInduction =>
      cases second with
      | noMore secondAttempt => exact nomatch (induction secondAttempt).1
      | more secondAttempt secondText_eq secondFurther =>
          obtain ⟨⟨rfl⟩, rfl⟩ := induction secondAttempt
          obtain rfl := List.append_cancel_left (text_eq.symm.trans secondText_eq)
          obtain ⟨⟨rfl⟩, rfl⟩ := furtherInduction secondFurther
          exact ⟨rfl, rfl⟩
  | call split attempt rest_eq induction =>
      cases second with
      | noTarget secondSplit | notOpened secondSplit head => simp_all
      | call secondSplit secondAttempt secondRest_eq =>
          obtain ⟨rfl, ⟨rfl⟩⟩ := Prod.mk.inj (Option.some.inj (split.symm.trans secondSplit))
          obtain ⟨⟨rfl⟩, rfl⟩ := induction secondAttempt
          exact ⟨rfl, rfl⟩
      | notClosed secondSplit secondAttempt secondRest_eq head =>
          obtain ⟨rfl, ⟨rfl⟩⟩ := Prod.mk.inj (Option.some.inj (split.symm.trans secondSplit))
          obtain ⟨⟨rfl⟩, rfl⟩ := induction secondAttempt
          obtain rfl := List.append_cancel_left (rest_eq.symm.trans secondRest_eq)
          exact absurd rfl head
  | notClosed split attempt rest_eq head induction =>
      cases second with
      | noTarget secondSplit | notOpened secondSplit head => simp_all
      | call secondSplit secondAttempt secondRest_eq =>
          obtain ⟨rfl, ⟨rfl⟩⟩ := Prod.mk.inj (Option.some.inj (split.symm.trans secondSplit))
          obtain ⟨⟨rfl⟩, rfl⟩ := induction secondAttempt
          obtain rfl := List.append_cancel_left (rest_eq.symm.trans secondRest_eq)
          exact absurd rfl head
      | notClosed secondSplit secondAttempt secondRest_eq secondHead =>
          obtain ⟨rfl, ⟨rfl⟩⟩ := Prod.mk.inj (Option.some.inj (split.symm.trans secondSplit))
          obtain ⟨⟨rfl⟩, rfl⟩ := induction secondAttempt
          exact ⟨rfl, rfl⟩

/-! ## Every text is attempted -/

/-- An attempt at a phrase that may be empty is complete. -/
theorem exists_complete_of_ne_once {phrase : Phrase} {text : List Char} {ending : Ending phrase}
    {height : Nat} (attempt : Attempt phrase text ending height)
    (mayBeEmpty : ∀ symbol, phrase ≠ .once symbol) :
    ∃ derivation, ending = .complete derivation := by
  cases attempt with
  | noArguments _ | someArguments _ | noMore _ | more _ _ _ => exact ⟨_, rfl⟩
  | _ => exact absurd rfl (mayBeEmpty _)

/-- The text after a complete attempt. -/
theorem exists_rest {phrase : Phrase} {text : List Char} {derivation : Derivation phrase}
    {height : Nat} (attempt : Attempt phrase text (.complete derivation) height) :
    ∃ rest, text = derivation.text ++ rest := by
  obtain ⟨rest, text_eq⟩ := attempt.taken_isPrefix
  exact ⟨rest, text_eq.symm⟩

/-- A text that has an attempt for a phrase. -/
def Attempted (phrase : Phrase) (text : List Char) : Prop :=
  ∃ ending height, Attempt phrase text ending height

theorem attempted_identifier (text : List Char) : Attempted (.once .identifier) text := by
  cases split : Identifier.split? text with
  | none => exact ⟨_, _, .noIdentifier split⟩
  | some parts => exact ⟨_, _, .identifier split⟩

theorem attempted_numberLiteral (text : List Char) : Attempted (.once .numberLiteral) text := by
  cases split : Literal.split? text with
  | none => exact ⟨_, _, .noNumber split⟩
  | some parts => exact ⟨_, _, .numberLiteral split⟩

theorem attempted_call {text : List Char}
    (inside : ∀ rest, rest.length < text.length → Attempted .optionalArguments rest) :
    Attempted (.once .call) text := by
  cases split : Identifier.split? text with
  | none => exact ⟨_, _, .noTarget split⟩
  | some parts =>
      obtain ⟨name, after⟩ := parts
      by_cases opened : after.head? = some '('
      · obtain ⟨rest, rfl⟩ := List.head?_eq_some_iff.mp opened
        have shorter : rest.length < text.length := by
          rw [(Identifier.eq_append_of_split? split).1]
          simp only [List.length_append, List.length_cons]
          omega
        obtain ⟨ending, height, attempt⟩ := inside rest shorter
        obtain ⟨arguments, rfl⟩ := attempt.exists_complete_of_ne_once (by simp)
        obtain ⟨last, rest_eq⟩ := attempt.exists_rest
        by_cases closed : last.head? = some ')'
        · obtain ⟨outside, rfl⟩ := List.head?_eq_some_iff.mp closed
          exact ⟨_, _, .call split attempt rest_eq⟩
        · exact ⟨_, _, .notClosed split attempt rest_eq closed⟩
      · exact ⟨_, _, .notOpened split opened⟩

theorem attempted_expression {text : List Char} (call : Attempted (.once .call) text) :
    Attempted (.once .expression) text := by
  obtain ⟨ending, height, attempt⟩ := call
  cases ending with
  | complete inner => exact ⟨_, _, .ofCall attempt⟩
  | broken label taken =>
      obtain ⟨numberEnding, numberHeight, numberAttempt⟩ := attempted_numberLiteral text
      cases numberEnding with
      | complete inner => exact ⟨_, _, .ofNumber attempt numberAttempt⟩
      | broken numberLabel numberTaken => exact ⟨_, _, .noExpression attempt numberAttempt⟩

theorem attempted_trailingArgument {text : List Char}
    (inside : ∀ rest, rest.length < text.length → Attempted (.once .expression) rest) :
    Attempted (.once .trailingArgument) text := by
  by_cases comma : text.head? = some ','
  · obtain ⟨rest, rfl⟩ := List.head?_eq_some_iff.mp comma
    obtain ⟨ending, height, attempt⟩ := inside rest (Nat.lt_succ_self _)
    cases ending with
    | complete argument => exact ⟨_, _, .trailingArgument attempt⟩
    | broken label taken => exact ⟨_, _, .noArgument attempt⟩
  · exact ⟨_, _, .noComma comma⟩

/-- What follows a complete attempt at a symbol is shorter than the text. -/
theorem length_lt_of_eq_append {symbol : Symbol} {text rest : List Char}
    {derivation : Derivation (.once symbol)} (text_eq : text = derivation.text ++ rest) :
    rest.length < text.length := by
  have := List.length_pos_iff.mpr derivation.text_ne_nil
  rw [text_eq, List.length_append]
  omega

theorem attempted_trailingArguments {text : List Char}
    (first : Attempted (.once .trailingArgument) text)
    (inside : ∀ rest, rest.length < text.length → Attempted .trailingArguments rest) :
    Attempted .trailingArguments text := by
  obtain ⟨ending, height, attempt⟩ := first
  cases ending with
  | broken label taken => exact ⟨_, _, .noMore attempt⟩
  | complete argument =>
      obtain ⟨rest, text_eq⟩ := attempt.exists_rest
      obtain ⟨further, furtherHeight, furtherAttempt⟩ :=
        inside rest (length_lt_of_eq_append text_eq)
      obtain ⟨others, rfl⟩ := furtherAttempt.exists_complete_of_ne_once (by simp)
      exact ⟨_, _, .more attempt text_eq furtherAttempt⟩

theorem attempted_argumentList {text : List Char} (first : Attempted (.once .expression) text)
    (inside : ∀ rest, rest.length < text.length → Attempted .trailingArguments rest) :
    Attempted (.once .argumentList) text := by
  obtain ⟨ending, height, attempt⟩ := first
  cases ending with
  | broken label taken => exact ⟨_, _, .noFirst attempt⟩
  | complete argument =>
      obtain ⟨rest, text_eq⟩ := attempt.exists_rest
      obtain ⟨further, furtherHeight, furtherAttempt⟩ :=
        inside rest (length_lt_of_eq_append text_eq)
      obtain ⟨others, rfl⟩ := furtherAttempt.exists_complete_of_ne_once (by simp)
      exact ⟨_, _, .argumentList attempt text_eq furtherAttempt⟩

theorem attempted_optionalArguments {text : List Char}
    (list : Attempted (.once .argumentList) text) : Attempted .optionalArguments text := by
  obtain ⟨ending, height, attempt⟩ := list
  cases ending with
  | complete arguments => exact ⟨_, _, .someArguments attempt⟩
  | broken label taken => exact ⟨_, _, .noArguments attempt⟩

/-- Every text has an attempt for every phrase. -/
theorem attempted (phrase : Phrase) (text : List Char) : Attempted phrase text := by
  induction length : text.length using Nat.strongRecOn generalizing phrase text with
  | ind count induction =>
      -- Calls and what follows the first part of a list are in shorter texts; the rest is built up.
      have shorter : ∀ inner rest, rest.length < text.length → Attempted inner rest :=
        fun inner rest less => induction rest.length (length ▸ less) inner rest rfl
      have expression := attempted_expression (attempted_call (shorter _))
      have trailing := attempted_trailingArgument (shorter _)
      have list := attempted_argumentList expression (shorter _)
      cases phrase with
      | optionalArguments => exact attempted_optionalArguments list
      | trailingArguments => exact attempted_trailingArguments trailing (shorter _)
      | once symbol =>
          cases symbol with
          | identifier => exact attempted_identifier text
          | numberLiteral => exact attempted_numberLiteral text
          | trailingArgument => exact trailing
          | argumentList => exact list
          | call => exact attempted_call (shorter _)
          | expression => exact expression

end Attempt

end Call
end Descent
