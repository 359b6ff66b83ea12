import Formula.Value

/-!
# Equality of values

Two values are equal if they are of one kind and have equal contents. Floating-point numbers
compare as numbers, so the two zeros are equal and what is no number equals nothing. Lists compare
item by item. Dictionaries compare as maps: the order of their keys makes no difference.
-/

namespace Formula.Value

mutual

/-- Whether two values are equal. -/
def equals : Value → Value → Bool
  | .integer left, .integer right => left == right
  | .float left, .float right => left == right
  | .string left, .string right => left == right
  | .boolean left, .boolean right => left == right
  | .list left, .list right => equalItems left right
  | .dictionary left, .dictionary right => left.length == right.length && boundIn left right
  | _, _ => false

/-- Whether two lists have equal items in the same places. -/
def equalItems : List Value → List Value → Bool
  | [], [] => true
  | left :: leftLater, right :: rightLater => equals left right && equalItems leftLater rightLater
  | _, _ => false

/-- Whether every key is bound to an equal value among other entries. -/
def boundIn : List (String × Value) → List (String × Value) → Bool
  | [], _ => true
  | (key, value) :: later, others =>
    (match Entries.get? key others with
      | some other => equals value other
      | none => false) &&
    boundIn later others

end

end Formula.Value
