import Formula.Entries
import Formula.Number.FloatText

/-!
# Values

What formulas evaluate to. A value's text is the formula that gives the value again, wherever
there is one: numbers have no sign in formulas, and no formula denotes infinity or no number.
-/

namespace Formula

/-- A value. Dictionaries keep the order in which their keys were first set. -/
inductive Value where
  | integer (number : Int64)
  | float (number : Float)
  | string (text : String)
  | boolean (truth : Bool)
  | list (items : List Value)
  | dictionary (entries : List (String × Value))

namespace Value

/-- The six kinds of values. -/
inductive Kind where
  | integer
  | float
  | string
  | boolean
  | list
  | dictionary
  deriving DecidableEq

/-- How messages name a kind. -/
def Kind.name : Kind → String
  | .integer => "integer"
  | .float => "float"
  | .string => "string"
  | .boolean => "boolean"
  | .list => "list"
  | .dictionary => "dictionary"

/-- The kind of a value. -/
def kind : Value → Kind
  | .integer _ => .integer
  | .float _ => .float
  | .string _ => .string
  | .boolean _ => .boolean
  | .list _ => .list
  | .dictionary _ => .dictionary

/-- A number as a floating-point number: a whole number is rounded to the nearest one. -/
def asFloat? : Value → Option Float
  | .integer number => some number.toFloat
  | .float number => some number
  | _ => none

mutual

/-- The text of a value. Strings and keys stand between double quotes as they are. -/
def chars : Value → List Char
  | .integer number => (toString number.toInt).toList
  | .float number => (FloatText.write FloatText.plain number).toList
  | .string text => '"' :: text.toList ++ ['"']
  | .boolean truth => (if truth then "true" else "false").toList
  | .list [] => ['[', ']']
  | .list (first :: later) => '[' :: chars first ++ laterItems later ++ [']']
  | .dictionary [] => ['\x7b', '\x7d']
  | .dictionary ((key, first) :: later) =>
    '\x7b' :: '"' :: key.toList ++ ['"', ':', ' '] ++ chars first ++ laterEntries later ++ ['\x7d']

/-- The items after the first one, each after a comma and a space. -/
def laterItems : List Value → List Char
  | [] => []
  | item :: later => ',' :: ' ' :: chars item ++ laterItems later

/-- The entries after the first one, each after a comma and a space. -/
def laterEntries : List (String × Value) → List Char
  | [] => []
  | (key, value) :: later =>
    ',' :: ' ' :: '"' :: key.toList ++ ['"', ':', ' '] ++ chars value ++ laterEntries later

end

/-- The text of a value. -/
def text (value : Value) : String := String.ofList value.chars

end Value

end Formula
