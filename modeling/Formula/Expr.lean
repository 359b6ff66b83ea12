import Formula.Text.Position
import Formula.Value.Equality
import Formula.Value.Outline

/-!
# Expressions and statements

The trees that formulas are read into. Each part keeps the span it was read from, for messages
alone: two trees are equal if they agree in everything else. Parentheses leave no trace in a tree
but its shape.
-/

namespace Formula

/-- The four operators. -/
inductive Operator where
  | plus
  | minus
  | times
  | divide
  deriving DecidableEq

namespace Operator

/-- How an operator is written. -/
def sign : Operator → String
  | .plus => "+"
  | .minus => "-"
  | .times => "*"
  | .divide => "/"

/-- How an outline names an operator. -/
def label : Operator → String
  | .plus => "Plus"
  | .minus => "Minus"
  | .times => "Times"
  | .divide => "Divide"

end Operator

/-- A name and where it stands. -/
structure Name where
  text : String
  span : Span

/-- An expression. The span of an operation is that of its operator; the span of a list or a
    dictionary reaches from bracket to bracket. -/
inductive Expr where
  | literal (value : Value) (span : Span)
  | name (written : Name)
  | operation (operator : Operator) (left right : Expr) (span : Span)
  | list (elements : List Expr) (span : Span)
  | dictionary (pairs : List (Expr × Expr)) (span : Span)

/-- A statement: an assignment to a name, or an expression by itself. -/
inductive Statement where
  | assignment (name : Name) (value : Expr)
  | expression (value : Expr)

/-- How an outline shows a name. -/
def Name.outline (name : Name) : String := "Name(\"" ++ name.text ++ "\")"

namespace Expr

/-- Where an expression starts: an operation starts with its leftmost operand. -/
def start : Expr → Position
  | .literal _ span => span.start
  | .name written => written.span.start
  | .operation _ left _ _ => left.start
  | .list _ span => span.start
  | .dictionary _ span => span.start

/-- Where an expression stops: an operation stops with its rightmost operand. -/
def stop : Expr → Position
  | .literal _ span => span.stop
  | .name written => written.span.stop
  | .operation _ _ right _ => right.stop
  | .list _ span => span.stop
  | .dictionary _ span => span.stop

/-- The span of an expression, without parentheses around it. -/
def span (expr : Expr) : Span := ⟨expr.start, expr.stop⟩

mutual

/-- Whether two expressions agree in all but their spans. -/
def equals : Expr → Expr → Bool
  | .literal left _, .literal right _ => Value.equals left right
  | .name left, .name right => left.text == right.text
  | .operation leftOperator left left' _, .operation rightOperator right right' _ =>
    leftOperator == rightOperator && equals left right && equals left' right'
  | .list left _, .list right _ => equalElements left right
  | .dictionary left _, .dictionary right _ => equalPairs left right
  | _, _ => false

/-- Whether two lists hold equal expressions in the same places. -/
def equalElements : List Expr → List Expr → Bool
  | [], [] => true
  | left :: leftLater, right :: rightLater =>
    equals left right && equalElements leftLater rightLater
  | _, _ => false

/-- Whether two lists hold equal pairs in the same places. -/
def equalPairs : List (Expr × Expr) → List (Expr × Expr) → Bool
  | [], [] => true
  | (leftKey, left) :: leftLater, (rightKey, right) :: rightLater =>
    equals leftKey rightKey && equals left right && equalPairs leftLater rightLater
  | _, _ => false

end

mutual

/-- The outline of an expression: every part headed by what it is, without spans. -/
def outline : Expr → String
  | .literal value _ => "Literal(" ++ value.outline ++ ")"
  | .name written => "Name(" ++ written.outline ++ ")"
  | .operation operator left right _ =>
    "BinaryOperation(" ++ operator.label ++ ", (" ++ outline left ++ ", " ++ outline right ++ "))"
  | .list elements _ => "List([" ++ ", ".intercalate (outlineElements elements) ++ "])"
  | .dictionary pairs _ => "Dict([" ++ ", ".intercalate (outlinePairs pairs) ++ "])"

/-- The outlines of the elements of a list. -/
def outlineElements : List Expr → List String
  | [] => []
  | element :: later => outline element :: outlineElements later

/-- The outlines of the pairs of a dictionary. -/
def outlinePairs : List (Expr × Expr) → List String
  | [] => []
  | (key, value) :: later =>
    ("(" ++ outline key ++ ", " ++ outline value ++ ")") :: outlinePairs later

end

end Expr

namespace Statement

/-- The span of a statement: an assignment starts with its name. -/
def span : Statement → Span
  | .assignment name value => name.span.through value.span
  | .expression value => value.span

/-- Whether two statements agree in all but their spans. -/
def equals : Statement → Statement → Bool
  | .assignment leftName left, .assignment rightName right =>
    leftName.text == rightName.text && left.equals right
  | .expression left, .expression right => left.equals right
  | _, _ => false

/-- The outline of a statement. -/
def outline : Statement → String
  | .assignment name value => "Assignment(" ++ name.outline ++ ", " ++ value.outline ++ ")"
  | .expression value => "Expression(" ++ value.outline ++ ")"

end Statement

end Formula
