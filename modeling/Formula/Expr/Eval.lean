import Formula.Bindings
import Formula.Expr
import Formula.Number.Checked

/-!
# Evaluation

An expression is evaluated under the names bound before it. Operands, elements and pairs are
evaluated from left to right and the first fault is the result. Whole numbers stay whole under
`+`, `-` and `*` and never wrap; a division and every mixture with a floating-point number is
computed in floating point; `+` also joins two strings.

Chains of operators group to the left and may be long, so the way down to the leftmost operand is
walked with a list of the steps that wait for a value, and only right operands, elements and
pairs are evaluated inside the evaluation of another expression.
-/

namespace Formula

/-- Why an expression has no value. -/
inductive EvalFault where
  | unbound (name : String)
  | typeMismatch (operator : Operator) (left right : Value.Kind)
  | divisionByZero
  | integerOverflow (operator : Operator)
  | invalidKey (kind : Value.Kind)

/-- A fault met in evaluation and the position of the part that has it. -/
structure EvalError where
  fault : EvalFault
  position : Position

/-- The line that is shown for an error in evaluation. -/
def EvalError.message (error : EvalError) : String :=
  let fault := match error.fault with
    | .unbound name => "name '" ++ name ++ "' is not defined"
    | .typeMismatch operator left right =>
      "unsupported operand types for " ++ operator.sign ++ ": '" ++ left.name ++ "' and '" ++
        right.name ++ "'"
    | .divisionByZero => "division by zero"
    | .integerOverflow operator => "integer overflow in " ++ operator.sign
    | .invalidKey kind => "dictionary keys must be strings, found " ++ kind.name
  fault ++ " at " ++ error.position.text

namespace Operator

/-- Two whole numbers are combined exactly, or overflow; any other two numbers in floating point. -/
def arithmetic (operator : Operator) (combine : Int64 → Int64 → Option Int64)
    (rounded : Float → Float → Float) (left right : Value) : Except EvalFault Value :=
  match left, right with
  | .integer m, .integer n =>
    match combine m n with
    | some result => .ok (.integer result)
    | none => .error (.integerOverflow operator)
  | _, _ =>
    match left.asFloat?, right.asFloat? with
    | some x, some y => .ok (.float (rounded x y))
    | _, _ => .error (.typeMismatch operator left.kind right.kind)

/-- The sum of two numbers, or two strings joined. -/
def add (left right : Value) : Except EvalFault Value :=
  match left, right with
  | .string first, .string second => .ok (.string (first ++ second))
  | _, _ => arithmetic .plus Checked.add? (· + ·) left right

/-- The quotient of two numbers in floating point. A zero divisor is a fault, whatever its sign. -/
def quotient (left right : Value) : Except EvalFault Value :=
  match left.asFloat?, right.asFloat? with
  | some x, some y => if y == 0.0 then .error .divisionByZero else .ok (.float (x / y))
  | _, _ => .error (.typeMismatch .divide left.kind right.kind)

/-- Apply an operator to two values. -/
def apply (operator : Operator) (left right : Value) : Except EvalFault Value :=
  match operator with
  | .plus => add left right
  | .minus => arithmetic .minus Checked.sub? (· - ·) left right
  | .times => arithmetic .times Checked.mul? (· * ·) left right
  | .divide => quotient left right

/-- Apply an operator that stands at a position. -/
def applyAt (operator : Operator) (position : Position) (left right : Value) :
    Except EvalError Value :=
  match operator.apply left right with
  | .ok value => .ok value
  | .error fault => .error ⟨fault, position⟩

end Operator

namespace Expr

/-- What waits for the value of a left operand. -/
abbrev Waiting := Value → Except EvalError Value

/-- Hand a value to what waits for it, the result to what waits next, and so on. -/
def resume (value : Value) (waiting : List Waiting) : Except EvalError Value :=
  waiting.foldlM (fun value step => step value) value

mutual

/-- Evaluate an expression and hand its value to the steps that wait for it. -/
def evalThen (bindings : Bindings) : Expr → List Waiting → Except EvalError Value
  | .literal value _, waiting => resume value waiting
  | .name written, waiting =>
    match bindings.get? written.text with
    | some value => resume value waiting
    | none => .error ⟨.unbound written.text, written.span.start⟩
  | .operation operator left right span, waiting =>
    let step : Waiting := fun leftValue => do
      let rightValue ← evalThen bindings right []
      operator.applyAt span.start leftValue rightValue
    evalThen bindings left (step :: waiting)
  | .list elements _, waiting => do
    let items ← evalElements bindings elements
    resume (.list items) waiting
  | .dictionary pairs _, waiting => do
    let entries ← evalPairs bindings pairs []
    resume (.dictionary entries) waiting

/-- Evaluate the elements of a list. -/
def evalElements (bindings : Bindings) : List Expr → Except EvalError (List Value)
  | [] => .ok []
  | element :: later => do
    let item ← evalThen bindings element []
    let items ← evalElements bindings later
    return item :: items

/-- Evaluate the pairs of a dictionary and add them to its entries. A key is looked at before its
    value is evaluated. -/
def evalPairs (bindings : Bindings) :
    List (Expr × Expr) → List (String × Value) → Except EvalError (List (String × Value))
  | [], entries => .ok entries
  | (keyExpr, valueExpr) :: later, entries => do
    match ← evalThen bindings keyExpr [] with
    | .string key =>
      let value ← evalThen bindings valueExpr []
      evalPairs bindings later (Entries.set key value entries)
    | other => .error ⟨.invalidKey other.kind, keyExpr.start⟩

end

/-- The value of an expression. -/
def eval (bindings : Bindings) (expr : Expr) : Except EvalError Value := evalThen bindings expr []

end Expr

/-- What a statement has done: an expression gave a value, an assignment bound a name. -/
inductive Outcome where
  | value (shown : Value)
  | assigned (name : String) (bound : Value)

/-- What is shown of an outcome. An assignment shows nothing. -/
def Outcome.echo? : Outcome → Option Value
  | .value shown => some shown
  | .assigned _ _ => none

/-- The value that a statement gave or bound. -/
def Outcome.result : Outcome → Value
  | .value shown => shown
  | .assigned _ bound => bound

/-- The outcome of a statement and the bindings after it. A name is bound only once the whole
    expression has a value, so a statement with a fault binds nothing. -/
def Statement.eval (bindings : Bindings) : Statement → Except EvalError (Outcome × Bindings)
  | .assignment name expr => do
    let value ← expr.eval bindings
    return (.assigned name.text value, bindings.set name.text value)
  | .expression expr => do
    let value ← expr.eval bindings
    return (.value value, bindings)

end Formula
