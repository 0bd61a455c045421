import Descent.Parser.Run
import Descent.Value.Shape

/-!
# Sentences

A grammar of short sentences, built from literals, concatenation, choice and repetition, and a run
that prints what came of a text.
-/

namespace Descent
namespace Sentence

/-- A blank. -/
def space : Parser := .literal " " (by decide)

/-- The sentence of the cow. -/
def cowSentence : Parser :=
  .sequence
    [.literal "cow" (by decide), space, .literal "says" (by decide), space,
      .literal "moo" (by decide)]

/-- An animal. -/
def animal : Parser :=
  .anyOf [.literal "cow" (by decide), .literal "dog" (by decide), .literal "cat" (by decide)]

/-- A sound. -/
def sound : Parser :=
  .anyOf [.literal "moo" (by decide), .literal "woof" (by decide), .literal "meow" (by decide)]

/-- The animal and the sound of a sentence. -/
def subjectAndSound (parts : Value) : Value := .tuple [parts.item 0, parts.item 4]

/-- What an animal says. -/
def sentence : Parser :=
  .transform subjectAndSound
    (.sequence [animal, space, .literal "says" (by decide), space, sound])

/-- Sentences, each with a full stop and a blank. -/
def chorus : Parser :=
  .many (.transform (Value.item 0) (.sequence [sentence, .literal ". " (by decide)]))

/-- The parsers under their names. -/
def parsers : List (String × Parser) :=
  [("SPACE", space), ("cow_sentence", cowSentence), ("animal", animal), ("sound", sound),
    ("sentence", sentence), ("chorus", chorus)]

/-- The line that shows what came of a text. -/
def resultLine (name : String) (parser : Parser) (text : String) : String :=
  let call := name ++ "(" ++ quotedText text ++ ")"
  match parser.outcomeAt .empty (Cursor.start (Source.ofString text)) with
  | .ok (.matched value cursor) =>
      "[OK]   " ++ call ++ " -> " ++ value.display ++ s!" (consumed {cursor.offset})\n"
  | .ok (.failed failure) => "[FAIL] " ++ call ++ " -> " ++ failure.headline ++ "\n"
  | .error fault => fault.message?.getD "" ++ "\n"

/-- A title between two rules. -/
def banner (title : String) : String :=
  let rule := String.ofList (List.replicate 60 '=') ++ "\n"
  rule ++ title ++ "\n" ++ rule

/-- What the sample prints. -/
def printed : String :=
  banner "Fixed sentence" ++
    resultLine "cow_sentence" cowSentence "cow says moo" ++
    resultLine "cow_sentence" cowSentence "cow says woof" ++
    "\n" ++ banner "Choice and repetition" ++
    resultLine "sentence" sentence "dog says woof" ++
    resultLine "sentence" sentence "cat says" ++
    resultLine "chorus" chorus "cow says moo. cat says meow. dog barks"

end Sentence
end Descent
