import Formula.Session

/-!
# What is left without places

Tokens, trees and errors say where in a text they stand. Here all of them are taken out of their
places: what has a span gets the span of what came from no text, and what has a position gets the
position of that. Two of them are equal without their places exactly if they agree in all the rest.
-/

namespace Formula

/-- What can be taken out of the places in a text that it speaks of. -/
class Placed (α : Type) where
  unplaced : α → α

open Placed

instance : Placed Position := ⟨fun _ => .nowhere⟩

instance : Placed Span := ⟨fun _ => .nowhere⟩

section Containers

variable {α β : Type} [Placed α] [Placed β]

instance : Placed (α × β) := ⟨fun pair => (unplaced pair.1, unplaced pair.2)⟩

instance : Placed (Option α) := ⟨Option.map unplaced⟩

instance : Placed (List α) := ⟨List.map unplaced⟩

instance : Placed (Except α β) where
  unplaced
    | .ok result => .ok (unplaced result)
    | .error error => .error (unplaced error)

end Containers

section Scalars

/-! What speaks of no places stays as it is. -/

instance : Placed Unit := ⟨id⟩

instance : Placed Operator := ⟨id⟩

end Scalars

instance : Placed Token := ⟨fun token => { token with span := .nowhere }⟩

instance : Placed Name := ⟨fun name => { name with span := .nowhere }⟩

mutual

/-- An expression whose parts all stand nowhere. -/
def Expr.unplaced : Expr → Expr
  | .literal value _ => .literal value .nowhere
  | .name written => .name (Placed.unplaced written)
  | .operation operator left right _ =>
    .operation operator left.unplaced right.unplaced .nowhere
  | .list elements _ => .list (unplacedElements elements) .nowhere
  | .dictionary pairs _ => .dictionary (unplacedPairs pairs) .nowhere

/-- The elements of a list without their places. -/
def Expr.unplacedElements : List Expr → List Expr
  | [] => []
  | element :: later => element.unplaced :: unplacedElements later

/-- The pairs of a dictionary without their places. -/
def Expr.unplacedPairs : List (Expr × Expr) → List (Expr × Expr)
  | [] => []
  | (key, value) :: later => (key.unplaced, value.unplaced) :: unplacedPairs later

end

instance : Placed Expr := ⟨Expr.unplaced⟩

instance : Placed Statement where
  unplaced
    | .assignment name value => .assignment (unplaced name) (unplaced value)
    | .expression value => .expression (unplaced value)

/-- The elements of a list lose their places one by one. By induction over the list, so that lists
of expressions can be handled as any list. -/
theorem Expr.unplacedElements_eq (elements : List Expr) :
    unplacedElements elements = Placed.unplaced elements := by
  induction elements with
  | nil => rfl
  | cons element later ih => rw [unplacedElements, ih]; rfl

/-- The pairs of a dictionary do the same, key and value. -/
theorem Expr.unplacedPairs_eq (pairs : List (Expr × Expr)) :
    unplacedPairs pairs = Placed.unplaced pairs := by
  induction pairs with
  | nil => rfl
  | cons pair later ih => rw [unplacedPairs, ih]; rfl

section Errors

instance : Placed LexError := ⟨fun error => { error with position := .nowhere }⟩

instance : Placed SyntaxError := ⟨fun error => { error with position := .nowhere }⟩

instance : Placed EvalError := ⟨fun error => { error with position := .nowhere }⟩

instance : Placed StatementError where
  unplaced
    | .lexical error => .lexical (unplaced error)
    | .syntactic error => .syntactic (unplaced error)
    | .evaluation error => .evaluation (unplaced error)

end Errors

section Results

variable {ε α β : Type} [Placed ε] {result result' result'' : Except ε α}

/-- Two results that differ at most in the place of an error: either the same value, or errors with
the same fault. -/
def SameFault (result result' : Except ε α) : Prop :=
  result.mapError unplaced = result'.mapError unplaced

/-- It does not matter which of the two results comes first. -/
theorem SameFault.symm (same : SameFault result result') : SameFault result' result := Eq.symm same

/-- Results that differ at most in places from a third differ at most in places from each other. -/
theorem SameFault.trans (same : SameFault result result') (same' : SameFault result' result'') :
    SameFault result result'' :=
  Eq.trans same same'

/-- Computations that go on in the same way after such results end in such results. If one has an
error the other has it as well, and neither goes on; otherwise both go on from the same value. -/
theorem SameFault.bind {next next' : α → Except ε β} (first : SameFault result result')
    (others : ∀ value, SameFault (next value) (next' value)) :
    SameFault (result >>= next) (result' >>= next') := by
  cases result with
  | error error =>
    cases result' with
    | error error' => exact congrArg Except.error (Except.error.inj first)
    | ok value' => cases first
  | ok value =>
    cases result' with
    | error error' => cases first
    | ok value' =>
      obtain rfl := Except.ok.inj first
      exact others value

end Results

end Formula
