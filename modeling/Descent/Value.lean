import Descent.Number.Layout
import Descent.Text.Quoted

/-!
# Values

One type holds what parsers produce and what trees are made of: nothing, truth values, integers,
floating-point numbers, texts, tuples, lists, records and calls.  Parsers join their values in tuples,
while a list is a piece of data that they pass on whole.  An expression is a number or a call whose
arguments are expressions.
-/

namespace Descent

/-- A dynamic value. -/
inductive Value where
  | null
  | truth (value : Bool)
  | integer (value : Int)
  | number (value : Binary64)
  | text (value : String)
  /-- The values of several parsers, in order of their matches. -/
  | tuple (items : List Value)
  | list (items : List Value)
  /-- Field names and, in the same order, their values. -/
  | record (names : List String) (values : List Value)
  /-- A call of a named target with arguments in source order. -/
  | call (target : String) (arguments : List Value)
  deriving Inhabited

namespace Value

/-- The node is a number of either kind; a truth value is none. -/
def isNumber : Value → Bool
  | integer _ => true
  | number _ => true
  | _ => false

/-- The node is a call. -/
def isCall : Value → Bool
  | call _ _ => true
  | _ => false

/-- The name under which an error reports the kind of a value. -/
def kindName : Value → String
  | null => "NoneType"
  | truth _ => "bool"
  | integer _ => "int"
  | number _ => "float"
  | text _ => "str"
  | tuple _ => "tuple"
  | list _ => "list"
  | record _ _ => "dict"
  | call _ _ => "Call"

/-- A truth value or an integer, as an integer. -/
def asInteger? : Value → Option Int
  | truth value => some (if value then 1 else 0)
  | integer value => some value
  | _ => none

mutual

/--
Equality of values: numbers of any kind, truth values among them, by exact value; records by their
fields in any order; all else piece by piece.
-/
def same : Value → Value → Bool
  | null, other =>
      match other with
      | null => true
      | _ => false
  | truth value, other => sameNumber (if value then 1 else 0) other
  | integer value, other => sameNumber value other
  | number value, other =>
      match other with
      | number otherValue => value.same otherValue
      | _ =>
          match other.asInteger? with
          | some otherValue => decide (value.toRat? = some (otherValue : Rat))
          | none => false
  | text value, other =>
      match other with
      | text otherValue => value == otherValue
      | _ => false
  | tuple items, other =>
      match other with
      | tuple otherItems => sameItems items otherItems
      | _ => false
  | list items, other =>
      match other with
      | list otherItems => sameItems items otherItems
      | _ => false
  | record names values, other =>
      match other with
      | record otherNames otherValues =>
          names.length == otherNames.length && sameFields names values otherNames otherValues
      | _ => false
  | call target arguments, other =>
      match other with
      | call otherTarget otherArguments =>
          target == otherTarget && sameItems arguments otherArguments
      | _ => false
where
  /-- Equality of an integer with a value. -/
  sameNumber (value : Int) : Value → Bool
    | number otherValue => decide (otherValue.toRat? = some (value : Rat))
    | other =>
        match other.asInteger? with
        | some otherValue => decide (value = otherValue)
        | none => false

/-- Equality of items, one after another. -/
def sameItems : List Value → List Value → Bool
  | [], others => others.isEmpty
  | item :: items, others =>
      match others with
      | [] => false
      | other :: others => same item other && sameItems items others

/-- Each field has an equal one of its name among other fields. -/
def sameFields : List String → List Value → List String → List Value → Bool
  | name :: names, value :: values, otherNames, otherValues =>
      (match (otherNames.zip otherValues).lookup name with
        | some otherValue => same value otherValue
        | none => false) &&
        sameFields names values otherNames otherValues
  | _, _, _, _ => true

end

mutual

/-- A value as a reader of a session sees it. -/
def display : Value → String
  | null => "None"
  | truth value => if value then "True" else "False"
  | integer value => String.ofList (integerText value)
  | number value => value.text
  | text value => quotedText value
  | tuple items => displayTuple items
  | list items => "[" ++ ", ".intercalate (displayItems items) ++ "]"
  | record names values =>
      "\x7b" ++ ", ".intercalate (List.zipWith displayField names (displayItems values)) ++ "\x7d"
  | call target arguments =>
      "Call(target=" ++ quotedText target ++ ", args=" ++ displayTuple arguments ++ ")"
where
  /-- One field of a record. -/
  displayField (name value : String) : String := quotedText name ++ ": " ++ value

/-- Items in parentheses; a comma follows a single one. -/
def displayTuple : List Value → String
  | [] => "()"
  | item :: items =>
      match items with
      | [] => "(" ++ display item ++ ",)"
      | next :: others =>
          "(" ++ ", ".intercalate (display item :: displayItems (next :: others)) ++ ")"

/-- The displayed items, one after another. -/
def displayItems : List Value → List String
  | [] => []
  | item :: items => display item :: displayItems items

end

end Value

end Descent
