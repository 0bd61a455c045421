import Descent.Diagnostic.Format
import Descent.Text.DecimalDigit

/-!
# Options of the command line

Arguments are read in two passes.  The first one tells words from options; an option may be cut short
as long as only one name fits, and a value may follow it behind an equals sign.  The second one gives
options their values.  The words that stand side by side first are the expressions; words after a
later option have no place.  Behind a double dash every argument is a word.
-/

namespace Descent
namespace Batch

/-- How an expression is printed. -/
inductive Rendering where
  | json
  | source
  deriving DecidableEq, Repr

/-- The rendering of a name. -/
def Rendering.ofName? (name : String) : Option Rendering :=
  if name = "json" then some json else if name = "source" then some source else none

/-- What the command line asks for. -/
structure Options where
  /-- Expressions to read; with none they are taken from the standard input. -/
  expressions : List String
  strict : Bool
  rendering : Rendering
  /-- Show an excerpt with each syntax error. -/
  context : Bool
  /-- Render errors as diagnostics. -/
  errorLayout : Option Layout
  verbose : Bool
  deriving DecidableEq, Repr

/-- The options without any argument. -/
def Options.initial : Options := ⟨[], false, .json, false, none, false⟩

/-- What the arguments come to. -/
inductive Command where
  | run (options : Options)
  | help
  /-- The arguments have no meaning. -/
  | misuse
  deriving DecidableEq, Repr

/-- An option. -/
inductive Flag where
  | help
  | strict
  | format
  | context
  | errorFormat
  | verbose
  deriving DecidableEq, Repr

namespace Flag

/-- All options. -/
def all : List Flag := [help, strict, format, context, errorFormat, verbose]

/-- The name behind a double dash. -/
def longName : Flag → List Char
  | help => "--help".toList
  | strict => "--strict".toList
  | format => "--format".toList
  | context => "--context".toList
  | errorFormat => "--error-format".toList
  | verbose => "--verbose".toList

/-- The letter behind a single dash. -/
def letter? : Flag → Option Char
  | help => some 'h'
  | verbose => some 'v'
  | _ => none

/-- The option takes a value. -/
def takesValue : Flag → Bool
  | format => true
  | errorFormat => true
  | _ => false

/-- The option of a letter. -/
def ofLetter? (character : Char) : Option Flag :=
  all.find? fun flag => flag.letter? == some character

/-- The options whose long names begin with given characters. -/
def beginningWith (characters : List Char) : List Flag :=
  all.filter fun flag => characters.isPrefixOf flag.longName

end Flag

/-- An argument, told from its form. -/
inductive Token where
  | word (text : String)
  /-- An option spelled out, and the value behind its equals sign. -/
  | option (flag : Flag) (value : Option (List Char))
  /-- An option named by its letter, and the text behind the letter. -/
  | letters (flag : Flag) (others : List Char)
  | unknown
  /-- An option cut so short that several names fit. -/
  | ambiguous
  deriving DecidableEq, Repr

/-- A part in front of the first equals sign, and the part behind it if there is one. -/
def splitEquals (characters : List Char) : List Char × Option (List Char) :=
  match characters.dropWhile (· != '=') with
  | [] => (characters, none)
  | _ :: value => (characters.takeWhile (· != '='), some value)

/-- A digit or more, all of any script. -/
def isDecimalRow (characters : List Char) : Bool :=
  !characters.isEmpty && characters.all isDecimal

/-- The text behind the dash of a negative number: digits, or digits with a point inside or in front. -/
def isUnsignedNumber (characters : List Char) : Bool :=
  let trimmed :=
    if characters.getLast? = some '\n' then characters.dropLast else characters
  isDecimalRow trimmed ||
    match trimmed.dropWhile isDecimal with
    | '.' :: fraction => isDecimalRow fraction
    | _ => false

/-- A word that may follow a dash although it names no option. -/
def isDashedWord (characters : List Char) : Bool :=
  isUnsignedNumber characters || characters.contains ' '

/-- The option that an argument behind a double dash names. -/
def readLongOption (argument : List Char) : Token :=
  let (name, value) := splitEquals argument
  match Flag.all.find? fun flag => flag.longName == argument with
  | some flag => .option flag none
  | none =>
      match Flag.all.find? fun flag => flag.longName == name with
      | some flag => .option flag value
      | none =>
          match Flag.beginningWith name with
          | [flag] => .option flag value
          | _ :: _ :: _ => .ambiguous
          | [] => if isDashedWord (argument.drop 1) then .word (String.ofList argument) else .unknown

/-- The option that an argument behind a single dash names by its first letter. -/
def readShortOption (argument : List Char) (character : Char) (others : List Char) : Token :=
  match Flag.ofLetter? character with
  | some flag => .letters flag others
  | none =>
      if isDashedWord (character :: others) then .word (String.ofList argument) else .unknown

/-- Tell an argument from its form. -/
def classify (argument : String) : Token :=
  match argument.toList with
  | '-' :: '-' :: rest => readLongOption ('-' :: '-' :: rest)
  | '-' :: character :: others => readShortOption ('-' :: character :: others) character others
  | _ => .word argument

/-- Which words may still be expressions. -/
inductive Progress where
  /-- No word was seen. -/
  | before
  /-- The last argument was an expression. -/
  | inside
  /-- The expressions have ended. -/
  | after
  deriving DecidableEq, Repr

/-- The second pass between two arguments. -/
structure Reading where
  options : Options
  progress : Progress
  /-- An argument without a place was seen. -/
  surplus : Bool
  deriving DecidableEq, Repr

namespace Reading

/-- Nothing was read. -/
def start : Reading := ⟨.initial, .before, false⟩

/-- Read a word. -/
def addWord (reading : Reading) (text : String) : Reading :=
  if reading.progress = .after then { reading with surplus := true }
  else
    { reading with
      options := { reading.options with expressions := reading.options.expressions ++ [text] }
      progress := .inside }

/-- Read the words behind a double dash. -/
def addTail (reading : Reading) (words : List String) : Reading :=
  if reading.progress = .after then { reading with surplus := true }
  else
    { reading with
      options := { reading.options with expressions := reading.options.expressions ++ words } }

/-- An option ends the expressions that were begun. -/
def endWords (reading : Reading) : Reading :=
  if reading.progress = .inside then { reading with progress := .after } else reading

/-- Change the options. -/
def change (reading : Reading) (update : Options → Options) : Reading :=
  { reading with options := update reading.options }

/-- Switch an option on that takes no value; help has no place in the options. -/
def switch (reading : Reading) : Flag → Option Reading
  | .strict => some (reading.change fun options => { options with strict := true })
  | .context => some (reading.change fun options => { options with context := true })
  | .verbose => some (reading.change fun options => { options with verbose := true })
  | _ => none

/-- Give an option its value. -/
def assign (reading : Reading) (flag : Flag) (value : String) : Option Reading :=
  match flag with
  | .format =>
      (Rendering.ofName? value).map fun rendering =>
        reading.change fun options => { options with rendering := rendering }
  | .errorFormat =>
      (Layout.ofName? value).map fun layout =>
        reading.change fun options => { options with errorLayout := some layout }
  | _ => none

/--
The options that letters behind one dash name, the first one given, and whether the letters end in
text that names none.  No value may follow a letter, and no second dash.
-/
def letterFlags (flag : Flag) : List Char → Option (List Flag × Bool)
  | [] => some ([flag], false)
  | character :: others =>
      if character = '=' ∨ character = '-' then none
      else
        match Flag.ofLetter? character with
        | none => some ([flag], true)
        | some next => (letterFlags next others).map fun (flags, surplus) => (flag :: flags, surplus)

/-- Switch options on one after another; `none` stands for a call for help. -/
def switchAll (reading : Reading) : List Flag → Option Reading
  | [] => some reading
  | flag :: flags =>
      match reading.switch flag with
      | none => none
      | some next => switchAll next flags

/-- The command at the end of the arguments. -/
def finish (reading : Reading) : Command :=
  if reading.surplus then .misuse else .run reading.options

/-- Read the classified arguments, then the words behind a double dash if there was one. -/
def readAll (tail : Option (List String)) (reading : Reading) : List Token → Command
  | [] =>
      match tail with
      | none => reading.finish
      | some words => (reading.addTail words).finish
  | .word text :: tokens => readAll tail (reading.addWord text) tokens
  | .unknown :: tokens => readAll tail { reading.endWords with surplus := true } tokens
  | .ambiguous :: _ => .misuse
  | .option flag value :: tokens =>
      if flag.takesValue then
        match value, tokens with
        | some text, others => assignAndRead tail reading.endWords flag (String.ofList text) others
        | none, .word text :: others => assignAndRead tail reading.endWords flag text others
        | none, _ => .misuse
      else if value.isSome then .misuse
      else
        match switchAll reading.endWords [flag] with
        | none => .help
        | some next => readAll tail next tokens
  | .letters flag others :: tokens =>
      match letterFlags flag others with
      | none => .misuse
      | some (flags, surplus) =>
          match switchAll reading.endWords flags with
          | none => .help
          | some next => readAll tail { next with surplus := next.surplus || surplus } tokens
where
  /-- Give an option its value and go on. -/
  assignAndRead (tail : Option (List String)) (reading : Reading) (flag : Flag) (value : String)
      (tokens : List Token) : Command :=
    match reading.assign flag value with
    | none => .misuse
    | some next => readAll tail next tokens

end Reading

/-- The command that arguments stand for. -/
def Command.ofArguments (arguments : List String) : Command :=
  let front := arguments.takeWhile (· != "--")
  let tail :=
    match arguments.dropWhile (· != "--") with
    | [] => none
    | _ :: words => some words
  let tokens := front.map classify
  if tokens.contains .ambiguous then .misuse else Reading.start.readAll tail tokens

end Batch
end Descent
