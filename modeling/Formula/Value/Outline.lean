import Formula.Text.Escaped
import Formula.Value

/-!
# Outlines of values

An outline shows how a value is built: every part is headed by its kind, strings are escaped, and
a floating-point number far from one in size has an exponent.
-/

namespace Formula.Value

mutual

/-- The outline of a value. -/
def outline : Value → String
  | .integer number => "Integer(" ++ toString number.toInt ++ ")"
  | .float number => "Float(" ++ FloatText.write FloatText.compact number ++ ")"
  | .string text => "String(" ++ Escaped.quote text ++ ")"
  | .boolean truth => "Boolean(" ++ (if truth then "true" else "false") ++ ")"
  | .list items => "List([" ++ ", ".intercalate (outlineItems items) ++ "])"
  | .dictionary entries =>
    "Dictionary(\x7b" ++ ", ".intercalate (outlineEntries entries) ++ "\x7d)"

/-- The outlines of the items of a list. -/
def outlineItems : List Value → List String
  | [] => []
  | item :: later => outline item :: outlineItems later

/-- The entries of a dictionary, escaped keys before outlined values. -/
def outlineEntries : List (String × Value) → List String
  | [] => []
  | (key, value) :: later =>
    (Escaped.quote key ++ ": " ++ outline value) :: outlineEntries later

end

end Formula.Value
